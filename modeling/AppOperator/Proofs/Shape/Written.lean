import AppOperator.Application.Basic
import AppOperator.Extension.ImageStream
import AppOperator.Extension.Knative
import AppOperator.Extension.Route
import AppOperator.Proofs.Shape.RoundTrip
import Mathlib.Data.List.Forall2

/-!
# Written forms

An object is brought up to date by reading it, setting something in it and
comparing what would be written with what would have been written before.
That comes to rest only if what was written once is written the same way
again: the **written form** of a value (`written?`) has itself for its written
form (`written?_of_written?`). Reading undoes writing for most shapes, and
then there is nothing to show. It does not for times, of which a part of a
second may be cut when they are written, so the written form is final not
because the value is read back but because the cut is made once
(`Shape.encode_inSeconds`).

Where a type collects the members that it has no field for, these are in the
written form as they were, and there are no others
(`Table.get?_encode_of_no_field`).
-/

namespace AppOperator

/-! ## What is written once is written the same way again

To write, to read and to write again: the middle step gives the value cut to whole
seconds, and what is cut of a value was not written in the first place. So nothing has
to be known of the value that is read but how it is written. -/

theorem Instant.inSeconds_render (t : Instant) : t.inSeconds.render = t.render := rfl

mutual
/-- **What is cut of a value is cut when it is written.** -/
theorem Shape.encode_inSeconds : ∀ (s : Shape) (v : s.Val), s.encode (s.inSeconds v) = s.encode v
  | .text, _ | .flag, _ | .int32, _ | .int64, _ | .bytes, _ | .timestamp, _ | .intOrText, _
  | .json, _ | .choice _ _, _ => by rw [Shape.inSeconds]
  | .instant, t => by
    rw [Shape.inSeconds, Shape.encode, Shape.encode]
    exact congrArg Json.str t.inSeconds_render
  | .list item, xs => by
    rw [Shape.inSeconds, Shape.encode, Shape.encode, List.map_map]
    exact congrArg Json.arr (List.map_congr_left fun x _ => item.encode_inSeconds x)
  | .map value, d => by
    rw [Shape.inSeconds, Shape.encode, Shape.encode]
    refine congrArg (fun d : Dict String Json => Json.obj d.entries) (Dict.ext fun k => ?_)
    rw [Dict.get?_map, Dict.get?_map, Dict.get?_map, Option.map_map]
    exact congrArg (Option.map · _) (funext value.encode_inSeconds)
  | .record style fields, v => by
    rw [Shape.inSeconds, Shape.encode, Shape.encode, fields.encode_inSeconds]
/-- So it is field by field. -/
theorem Table.encode_inSeconds : ∀ (t : Table) (v : t.Val), t.encode (t.inSeconds v) = t.encode v
  | .done, _ => rfl
  | .extras _, _ => rfl
  | .optional _ shape rest, (none, v) => by
    rw [Table.inSeconds, Option.map_none, Table.encode, Table.encode, rest.encode_inSeconds]
  | .optional _ shape rest, (some x, v) => by
    rw [Table.inSeconds, Option.map_some, Table.encode, Table.encode, rest.encode_inSeconds,
      shape.encode_inSeconds]
  | .always _ _ shape rest, (x, v) => by
    rw [Table.inSeconds, Table.encode, Table.encode, rest.encode_inSeconds, shape.encode_inSeconds]
end

/-- **The written form** of a value: how it is written once it was read. -/
def written? (α : Type) [Shaped α] (j : Json) : Option Json := (decode α j).map encode

/-- **The written form has itself for its written form.** -/
theorem written?_of_written? {α : Type} [Shaped α] (h : (shapeOf α).distinct = true) {j n : Json}
    (hn : written? α j = some n) : written? α n = some n := by
  obtain ⟨a, -, rfl⟩ := Option.map_eq_some_iff.1 hn
  have hread : decode α (encode a) = some (ofVal ((shapeOf α).inSeconds (toVal a))) := by
    rw [decode, encode, (shapeOf α).decode_encode_inSeconds _ h]
    rfl
  have hsame : encode (ofVal (α := α) ((shapeOf α).inSeconds (toVal a))) = encode a := by
    rw [encode, Shaped.toVal_ofVal, Shape.encode_inSeconds]
    rfl
  rw [written?, hread, Option.map_some, hsame]

/-! ## Members that no field is for

Some types collect the members that they have no field for, and others drop them.
Which of them a type does is a computation on its table, and for a type that collects
all names but those it models the written form has the other members as they were. It
is what allows one operator to set a field in an object whose other fields are for
others. -/

namespace Table

/-- Whether a table collects members of a name, if no field has it. -/
def collects : Table → String → Bool
  | .done, _ => false
  | .extras taken, name => !taken.contains name
  | .optional _ _ rest, name => rest.collects name
  | .always _ _ _ rest, name => rest.collects name

variable {members : List (String × Json)} {name : String}

/-- **Of the members that no field is for those are written that are
collected**, as they are. -/
theorem get?_encode_of_no_field (hs : Assoc.Sorted members) : ∀ (t : Table) (v : t.Val),
    name ∉ t.names → t.decode members = some v →
    Assoc.get? name (t.encode v) = if t.collects name then Assoc.get? name members else none
  | .done, _, _, _ => rfl
  | .extras taken, v, _, h => by
    obtain rfl := Option.some.inj h
    have hget : Assoc.get? name ((Table.extras taken).encode (Extras.ofMembers taken members))
        = (taken.foldl Dict.erase (Dict.ofList members)).get? name := rfl
    have hlisted : (Dict.ofList members).get? name = Assoc.get? name members :=
      congrArg (Assoc.get? name) (Assoc.ofList_of_sorted hs)
    rw [hget, Dict.get?_foldl_erase, hlisted, collects]
    by_cases htaken : name ∈ taken
    · simp [htaken]
    · simp [htaken]
  | .optional field shape rest, (x, v), hname, h => by
    rw [names, List.mem_cons, not_or] at hname
    have hrest := rest.get?_encode_of_no_field hs v hname.2 (decode_optional_eq_some_iff.1 h).2
    cases x with
    | none => rw [Table.encode, hrest, collects]
    | some x => rw [Table.encode, Assoc.get?_insert, if_neg hname.1, hrest, collects]
  | .always absence field shape rest, (x, v), hname, h => by
    rw [names, List.mem_cons, not_or] at hname
    have hrest := rest.get?_encode_of_no_field hs v hname.2 (decode_of_always h)
    rw [Table.encode, Assoc.get?_insert, if_neg hname.1, hrest, collects]

end Table

/-- Whether members of other names than some are in the written form of a
value as they are in the value itself, and no others are. -/
def KeepsOthers (α : Type) [Shaped α] (names : List String) : Prop :=
  ∀ j n, Assoc.Sorted j.members → written? α j = some n →
    ∀ name ∉ names, n.get? name = j.get? name

/-- A record that shares its object with other members keeps those. -/
theorem Shape.get?_encode_shared {s : Shape} {fields : Table} (hshape : s = .record .shared fields)
    {j : Json} {v : s.Val} {name : String} (h : s.decode j = some v) (hs : Assoc.Sorted j.members)
    (hname : name ∉ fields.names) (hcollects : fields.collects name = true) :
    (s.encode v).get? name = j.get? name := by
  subst hshape
  cases j with
  | obj members =>
    have hget := fields.get?_encode_of_no_field hs v hname h
    rw [hcollects, if_pos rfl] at hget
    exact hget
  | _ => exact absurd h nofun

/-- A type keeps the members of other names than it has fields for, if it collects them. -/
theorem keepsOthers_of_collects {α : Type} [Shaped α] {names : List String} {fields : Table}
    (hshape : shapeOf α = .record .shared fields)
    (hothers : ∀ name ∉ names, name ∉ fields.names ∧ fields.collects name = true) :
    KeepsOthers α names := by
  intro j n hs hn name hname
  obtain ⟨a, ha, rfl⟩ := Option.map_eq_some_iff.1 hn
  obtain ⟨v, hv, rfl⟩ := Option.map_eq_some_iff.1 ha
  rw [encode, Shaped.toVal_ofVal]
  exact Shape.get?_encode_shared hshape hv hs (hothers name hname).1 (hothers name hname).2

theorem keepsOthers_endpoint : KeepsOthers Endpoint Endpoint.modelled :=
  keepsOthers_of_collects rfl fun name hname =>
    ⟨hname, show (!Endpoint.modelled.contains name) = true by simpa using hname⟩

theorem keepsOthers_monitorSpec : KeepsOthers MonitorSpec MonitorSpec.modelled :=
  keepsOthers_of_collects rfl fun name hname =>
    ⟨hname, show (!MonitorSpec.modelled.contains name) = true by simpa using hname⟩

/-! ## What a resource asks for

Objects of other operators hold what is asked for in a member of their own, so what
was shown of that part has to be carried to the whole. For endpoints this goes one
level deeper, into the items of a list. -/

/-- A field that has to be given is read from its member. -/
theorem Table.decode_refused {name : String} {shape : Shape} {rest : Table}
    {members : List (String × Json)} {v : (Table.always .refused name shape rest).Val}
    (h : (Table.always .refused name shape rest).decode members = some v) :
    ∃ j, Assoc.get? name members = some j ∧ shape.decode j = some v.1 := by
  cases hj : Assoc.get? name members with
  | none => simp [Table.decode, hj] at h
  | some j =>
    simp only [Table.decode, hj, Option.bind_eq_bind, Option.bind_eq_some_iff] at h
    obtain ⟨x, hx, r, -, hv⟩ := h
    obtain rfl := Option.some.inj hv
    exact ⟨j, rfl, by cases j <;> exact hx⟩

/-- **What a resource asks for** is read from its member `spec` and written there. -/
theorem Shape.spec_of_decode_resource {s about asked : Shape} {rest : Table}
    {apiVersion kind : String} {members : List (String × Json)} {v : s.Val}
    (hshape : s = .record (.resource apiVersion kind)
      (.always .refused "metadata" about (.always .refused "spec" asked rest)))
    (h : s.decode (.obj members) = some v) :
    ∃ spec x, Assoc.get? "spec" members = some spec ∧ asked.decode spec = some x
      ∧ (s.encode v).get? "spec" = some (asked.encode x) := by
  subst hshape
  rw [Shape.decode] at h
  split at h
  · obtain ⟨spec, hspec, hread⟩ := Table.decode_refused (Table.decode_of_always h)
    refine ⟨spec, v.2.1, hspec, hread, ?_⟩
    show Assoc.get? "spec" ((Style.resource apiVersion kind).addTo _) = _
    rw [Style.get?_addTo _ _ (by simp [Style.taken, Style.resource])]
    rw [Table.encode, Assoc.get?_insert, if_neg (by decide), Table.encode, Assoc.get?_insert_self]
  · cases h

/-- Reading a list reads its items. -/
theorem forall₂_of_mapM {α β : Type} {read : α → Option β} {xs : List α} {ys : List β}
    (h : xs.mapM read = some ys) : List.Forall₂ (fun x y => read x = some y) xs ys := by
  induction xs generalizing ys with
  | nil =>
    obtain rfl := Option.some.inj h
    exact .nil
  | cons x rest ih =>
    rw [List.mapM_cons] at h
    simp only [Option.bind_eq_bind, Option.bind_eq_some_iff] at h
    obtain ⟨y, hy, others, hothers, hys⟩ := h
    obtain rfl := Option.some.inj hys
    exact .cons hy (ih hothers)

/-- The written form of a service monitor has the written form of what it asks for. -/
theorem ServiceMonitor.spec_written {members : List (String × Json)} {n : Json}
    (h : written? ServiceMonitor (.obj members) = some n) :
    ∃ spec spec', Assoc.get? "spec" members = some spec ∧ n.get? "spec" = some spec'
      ∧ written? MonitorSpec spec = some spec' := by
  obtain ⟨m, hm, rfl⟩ := Option.map_eq_some_iff.1 h
  obtain ⟨v, hv, rfl⟩ := Option.map_eq_some_iff.1 hm
  obtain ⟨spec, x, hspec, hread, hwritten⟩ :=
    @Shape.spec_of_decode_resource _ _ (shapeOf MonitorSpec) _ _ _ _ _ rfl hv
  refine ⟨spec, (shapeOf MonitorSpec).encode x, hspec, ?_, ?_⟩
  · rw [encode, Shaped.toVal_ofVal]
    exact hwritten
  · rw [written?, decode, hread, Option.map_some, Option.map_some, encode, Shaped.toVal_ofVal]

/-- The written form of what a service monitor asks for has the written forms of its endpoints. -/
theorem MonitorSpec.endpoints_written {j n : Json} {items : List Json}
    (h : written? MonitorSpec j = some n) (hitems : j.get? "endpoints" = some (.arr items)) :
    ∃ items', n.get? "endpoints" = some (.arr items')
      ∧ List.Forall₂ (fun i i' => written? Endpoint i = some i') items items' := by
  obtain ⟨m, hm, rfl⟩ := Option.map_eq_some_iff.1 h
  obtain ⟨⟨selector, endpoints, extra⟩, hv, rfl⟩ := Option.map_eq_some_iff.1 hm
  cases j with
  | obj members =>
    have hread := ((Table.decode_always_eq_some_iff hitems (by simp)).1
      (Table.decode_of_always hv)).1
    refine ⟨endpoints.map (shapeOf Endpoint).encode, ?_, ?_⟩
    · rw [encode, Shaped.toVal_ofVal]
      show Assoc.get? "endpoints" (Assoc.insert "selector" _ (Assoc.insert "endpoints" _ _)) = _
      rw [Assoc.get?_insert, if_neg (by decide), Assoc.get?_insert_self]
      rfl
    · rw [List.forall₂_map_right_iff]
      refine (forall₂_of_mapM hread).imp fun i v hi => ?_
      rw [written?, decode, hi, Option.map_some, Option.map_some, encode, Shaped.toVal_ofVal]
  | _ => exact absurd hv nofun

/-! ## Written forms are final

For every type that the operator compares with what is stored it is checked that its
shape is distinct, by evaluating it; the rest is the general theorem. The types that
collect members are named, and what is said of them is said for the whole object. -/

/-- Whether what is written once of a type is written the same way again. -/
def WritesOnce (α : Type) [Shaped α] : Prop :=
  ∀ j n, written? α j = some n → written? α n = some n

/-- **Written forms are final**: for every type that the operator compares
with what a cluster has stored, what is written once is read again and
written the same. In what a service monitor asks for, and in each of its
endpoints, members that no field is for are written as they are, and no
others are. -/
theorem written_once :
    (WritesOnce Application ∧ WritesOnce ApplicationSpec ∧ WritesOnce ApplicationStatus)
    ∧ (WritesOnce Route ∧ WritesOnce KnativeService ∧ WritesOnce ImageStream)
    ∧ (WritesOnce ServiceMonitor ∧ WritesOnce MonitorSpec ∧ WritesOnce Endpoint)
    ∧ (∀ members n, written? ServiceMonitor (.obj members) = some n →
        ∃ spec spec', Assoc.get? "spec" members = some spec ∧ n.get? "spec" = some spec'
          ∧ written? MonitorSpec spec = some spec')
    ∧ (∀ j n items, written? MonitorSpec j = some n → j.get? "endpoints" = some (.arr items) →
        ∃ items', n.get? "endpoints" = some (.arr items')
          ∧ List.Forall₂ (fun i i' => written? Endpoint i = some i') items items')
    ∧ KeepsOthers MonitorSpec MonitorSpec.modelled
    ∧ KeepsOthers Endpoint Endpoint.modelled := by
  refine ⟨⟨?_, ?_, ?_⟩, ⟨?_, ?_, ?_⟩, ⟨?_, ?_, ?_⟩, fun _ _ => ServiceMonitor.spec_written,
    fun _ _ _ => MonitorSpec.endpoints_written, keepsOthers_monitorSpec, keepsOthers_endpoint⟩
  all_goals exact fun _ _ => written?_of_written? (by decide +kernel)

/-- A status whose only condition is dated to a part of a second. -/
def datedStatus (time : String) : Json :=
  .obj [("conditions", .arr [.obj [
    ("lastTransitionTime", .str time), ("status", .str "True"), ("type", .str "Reconciled")]])]

/-- An endpoint with a member that no field is for. -/
def unverifiedEndpoint : Json :=
  .obj [("port", .str "8080-tcp"), ("tlsConfig", .obj [("insecureSkipVerify", .bool true)])]

/-- A part of a second is cut once, and encryption that is not modelled is kept. -/
theorem written_once_dated :
    written? ApplicationStatus (datedStatus "2020-01-01T00:00:00.25Z")
        = some (datedStatus "2020-01-01T00:00:00Z")
    ∧ written? ApplicationStatus (datedStatus "2020-01-01T00:00:00Z")
        = some (datedStatus "2020-01-01T00:00:00Z")
    ∧ ∃ n, written? Endpoint unverifiedEndpoint = some n
        ∧ n.get? "tlsConfig" = some (.obj [("insecureSkipVerify", .bool true)]) := by
  have hstatus : written? ApplicationStatus (datedStatus "2020-01-01T00:00:00.25Z")
      = some (datedStatus "2020-01-01T00:00:00Z") := by decide +kernel
  have hendpoint : written? Endpoint unverifiedEndpoint = some unverifiedEndpoint := by
    decide +kernel
  obtain ⟨⟨-, -, hfinal⟩, -, -, -, -, -, hkeeps⟩ := written_once
  refine ⟨hstatus, hfinal _ _ hstatus, _, hendpoint, ?_⟩
  exact hkeeps _ _ (by unfold Assoc.Sorted; decide +kernel) hendpoint "tlsConfig" (by decide)

end AppOperator
