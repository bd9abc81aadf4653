import AppOperator.Child.Knative
import AppOperator.Child.Monitor
import AppOperator.Child.Route
import AppOperator.Child.Service
import AppOperator.Child.Workload
import AppOperator.Cluster.Child
import AppOperator.Proofs.Cluster.Runs
import AppOperator.Proofs.Shape.RoundTrip

/-!
# Stored objects

What the operator knows of a stored object is what `Access.find` makes of
its JSON: the metadata are read first, by themselves, and then the object as
one of its type (`Access.read?`). A type is `Legible` if its objects are read
as they were written and bear their metadata where metadata are looked for;
all types that an application has children of are.

Objects that the operator has not written are the reason for this detour. Whether they
can be read at all is not for the operator to decide, and a field that it does not
know must not be lost. All that later modules assume of a stored object is that it was
read, and what follows from this is here.
-/

namespace AppOperator

/-- The metadata of an object of any type, if they can be read. -/
def Json.metadata? : Json → Option ObjectMeta
  | .obj members =>
    match Assoc.get? "metadata" members with
    | none => some (blank ObjectMeta)
    | some j => decode ObjectMeta j
  | _ => none

/-- **An object as it is read** from what is stored. -/
def Access.read? (α : Type) [ApiObject α] (j : Json) : Option α :=
  (Access.untyped? j).bind (decode α)

/-! ## Types that are read as they are written

Which types these are is decided by their shapes. A type is legible if its shape is
exact, so that nothing is lost between writing and reading, and if it has its metadata
in front, as all objects of the platform do. Both are checked by evaluating the shape,
once for each type, and the rest is common (`Legible.of_view`). -/

theorem exact_objectMeta : (shapeOf ObjectMeta).exact = true := by decide +kernel

theorem decode_encode_objectMeta (m : ObjectMeta) : decode ObjectMeta (encode m) = some m := by
  rw [decode, encode, Shape.decode_encode _ _ exact_objectMeta, Option.map_some,
    Shaped.ofVal_toVal]

/-- **A type whose objects are read as they were written.** -/
class Legible (α : Type) [ApiObject α] : Prop where
  /-- Reading undoes writing. -/
  exact : (shapeOf α).exact = true
  /-- What is written has a header and the metadata. -/
  encode_eq : ∀ a : α, ∃ (h : Header) (rest : List (String × Json)), Assoc.Sorted rest ∧
    encode a = .obj (h.addTo (Assoc.insert "metadata" (encode (metadata a)) rest))
  /-- The metadata of what is read are the metadata that stand there. -/
  metadata_of_decode : ∀ (members : List (String × Json)) (m : ObjectMeta) (a : α),
    decode α (.obj members) = some a → Assoc.get? "metadata" members = some (encode m) →
    metadata a = m
  /-- A new object has no metadata yet. -/
  metadata_blank : metadata (blank α) = blank ObjectMeta

section Records

variable {style : Style} {absence : Absence} {rest : Table}

/-- The shape of an object that stands on its own: the metadata come first. -/
abbrev objectShape (style : Style) (absence : Absence) (rest : Table) : Shape :=
  .record style (.always absence "metadata" (shapeOf ObjectMeta) rest)

theorem encode_objectShape {h : Header} (hs : style.header = some h)
    (v : (shapeOf ObjectMeta).Val) (r : rest.Val) :
    (objectShape style absence rest).encode (v, r)
      = .obj (h.addTo
        (Assoc.insert "metadata" ((shapeOf ObjectMeta).encode v) (rest.encode r))) := by
  show Json.obj (style.addTo (Assoc.insert "metadata" _ (rest.encode r))) = _
  rw [Style.addTo, hs]

/-- The metadata of a record are read from the member of that name. -/
theorem metadata_of_decode_objectShape {members : List (String × Json)} {m : ObjectMeta}
    {v : (objectShape style absence rest).Val}
    (h : (objectShape style absence rest).decode (.obj members) = some v)
    (hm : Assoc.get? "metadata" members = some (encode m)) : ofVal v.1 = m := by
  have hread := decode_encode_objectMeta m
  have hnull : encode m ≠ .null := Shape.encode_ne_null _ (toVal m)
  obtain ⟨w, hw, rfl⟩ := Option.map_eq_some_iff.1 hread
  change (if style.admits members = true then
    (Table.always absence "metadata" (shapeOf ObjectMeta) rest).decode members else none)
      = some v at h
  split at h
  · generalize encode (ofVal w : ObjectMeta) = j at hw hnull hm
    cases j with
    | null => exact absurd rfl hnull
    | _ =>
      simp only [Table.decode, hm, hw, Option.bind_eq_bind, Option.bind_some] at h
      obtain ⟨r, -, hv⟩ := Option.bind_eq_some_iff.1 h
      rw [← Option.some.inj hv]
  · simp at h

variable {α : Type} [ApiObject α]

/-- **A type is legible by its shape**: seen as the tuples of such a record,
its objects have their metadata in front. -/
theorem Legible.of_view {h : Header} (header : style.header = some h)
    (exact : (shapeOf α).exact = true) (view : α → (objectShape style absence rest).Val)
    (encode_view : ∀ a, encode a = (objectShape style absence rest).encode (view a))
    (decode_view : ∀ j a, decode α j = some a →
      (objectShape style absence rest).decode j = some (view a))
    (metadata_view : ∀ a, toVal (metadata a) = (view a).1)
    (metadata_blank : metadata (blank α) = blank ObjectMeta) : Legible α where
  exact := exact
  metadata_blank := metadata_blank
  encode_eq a := by
    refine ⟨h, rest.encode (view a).2, Table.sorted_encode _ _, ?_⟩
    rw [encode_view, encode, metadata_view]
    exact encode_objectShape header _ _
  metadata_of_decode members m a ha hm := by
    rw [← metadata_of_decode_objectShape (decode_view _ _ ha) hm, ← metadata_view,
      Shaped.ofVal_toVal]

end Records

/-- What is read of a shaped type is what its shape reads. -/
theorem decode_eq_some_iff {α : Type} [Shaped α] {j : Json} {a : α} :
    decode α j = some a ↔ (shapeOf α).decode j = some (toVal a) := by
  rw [decode, Option.map_eq_some_iff]
  constructor
  · rintro ⟨v, hv, rfl⟩
    rw [hv, Shaped.toVal_ofVal]
  · exact fun h => ⟨_, h, Shaped.ofVal_toVal a⟩

instance : Legible Secret :=
  .of_view rfl (by decide +kernel) toVal (fun _ => rfl) (fun _ _ => decode_eq_some_iff.1)
    (fun _ => rfl) rfl

instance : Legible ServiceAccount :=
  .of_view rfl (by decide +kernel) toVal (fun _ => rfl) (fun _ _ => decode_eq_some_iff.1)
    (fun _ => rfl) rfl

instance : Legible Service :=
  .of_view rfl (by decide +kernel) toVal (fun _ => rfl) (fun _ _ => decode_eq_some_iff.1)
    (fun _ => rfl) rfl

instance : Legible Deployment :=
  .of_view rfl (by decide +kernel) toVal (fun _ => rfl) (fun _ _ => decode_eq_some_iff.1)
    (fun _ => rfl) rfl

instance : Legible StatefulSet :=
  .of_view rfl (by decide +kernel) toVal (fun _ => rfl) (fun _ _ => decode_eq_some_iff.1)
    (fun _ => rfl) rfl

instance : Legible Autoscaler :=
  .of_view rfl (by decide +kernel) toVal (fun _ => rfl) (fun _ _ => decode_eq_some_iff.1)
    (fun _ => rfl) rfl

instance : Legible Route :=
  .of_view rfl (by decide +kernel) toVal (fun _ => rfl) (fun _ _ => decode_eq_some_iff.1)
    (fun _ => rfl) rfl

instance : Legible ServiceMonitor :=
  .of_view rfl (by decide +kernel) toVal (fun _ => rfl) (fun _ _ => decode_eq_some_iff.1)
    (fun _ => rfl) rfl

instance : Legible KnativeService :=
  .of_view rfl (by decide +kernel) toVal (fun _ => rfl) (fun _ _ => decode_eq_some_iff.1)
    (fun _ => rfl) rfl

/-! ## Reading what is stored

An object is read twice over: first without knowledge of its type, for its header and
its metadata, and then as one of its type. What is written passes both. Of what others
have written it is known, if it passes, that both readings have seen the same metadata
and the same other members. -/

section Reading

variable {α : Type} [ApiObject α] [Legible α]

/-- What was written as an object of a type is one of that type. -/
theorem decode_encode (a : α) : decode α (encode a) = some a :=
  decode_eq_some_iff.2 (Shape.decode_encode _ _ Legible.exact)

/-- **What was written is read** as it was written. -/
@[simp] theorem Access.read?_encode (a : α) : read? α (encode a) = some a := by
  obtain ⟨h, rest, hs, he⟩ := Legible.encode_eq a
  have hsorted : Assoc.Sorted (h.addTo (Assoc.insert "metadata" (encode (metadata a)) rest)) :=
    Assoc.sorted_insert _ _ (Assoc.sorted_insert _ _ (Assoc.sorted_insert _ _ hs))
  have hm : (encode a).get? "metadata" = some (encode (metadata a)) := by
    rw [he]
    simp [Json.get?, Json.members, Header.addTo, Assoc.get?_insert]
  have hwhole : withWholeHeader (encode a) = encode a := by
    rw [withWholeHeader, if_pos]
    rw [he]
    simp [Json.text?, Json.get?, Json.members, Header.addTo, Assoc.get?_insert]
  have huntyped : untyped? (encode a) = some (encode a) := by
    rw [he] at hwhole hm ⊢
    rw [untyped?]
    simp only [hwhole, hm, decode_encode_objectMeta, Option.map_some, Option.some.injEq]
    exact congrArg Json.obj (Assoc.insert_of_get?_eq hsorted hm)
  rw [read?, huntyped]
  exact decode_encode a

/-- Objects that are written alike are the same. -/
theorem encode_injective {a b : α} (h : encode a = encode b) : a = b := by
  have := congrArg (Access.read? α) h
  simpa using this

omit [ApiObject α] [Legible α] in
/-- Taking a header away leaves the other members. -/
theorem Access.get?_withWholeHeader (members : List (String × Json)) {name : String}
    (hversion : name ≠ "apiVersion") (hkind : name ≠ "kind") :
    (withWholeHeader (.obj members)).get? name = Assoc.get? name members := by
  have hfilter : ∀ ms : List (String × Json),
      Assoc.get? name (ms.filter fun m => m.1 ≠ "apiVersion" ∧ m.1 ≠ "kind")
        = Assoc.get? name ms := by
    intro ms
    induction ms with
    | nil => rfl
    | cons p rest ih =>
      obtain ⟨other, value⟩ := p
      by_cases hn : name = other
      · subst hn
        simp [Assoc.get?_cons, hversion, hkind]
      · rw [Assoc.get?_cons, if_neg hn, List.filter_cons]
        split
        · rw [Assoc.get?_cons, if_neg hn, ih]
        · exact ih
  unfold withWholeHeader
  split
  · rfl
  · exact hfilter members

omit [ApiObject α] [Legible α] in
/-- What is read of an object of unknown type has all other members. -/
theorem Access.get?_of_untyped? {members : List (String × Json)} {object : Json}
    (h : untyped? (.obj members) = some object) {name : String} (hversion : name ≠ "apiVersion")
    (hkind : name ≠ "kind") (hmetadata : name ≠ "metadata") :
    object.get? name = Assoc.get? name members := by
  rw [← get?_withWholeHeader members hversion hkind]
  rw [untyped?] at h
  split at h
  · rw [← Option.some.inj h, Json.get?_insert, if_neg hmetadata]
  · obtain ⟨m, -, rfl⟩ := Option.map_eq_some_iff.1 h
    rw [Json.get?_insert, if_neg hmetadata]

/-- **What is read has the metadata that stand there.** -/
theorem Access.metadata?_of_read? {j : Json} {a : α} (h : read? α j = some a) :
    j.metadata? = some (metadata a) := by
  obtain ⟨object, hobject, hdecode⟩ := Option.bind_eq_some_iff.1 h
  cases j with
  | obj members =>
    rw [untyped?, get?_withWholeHeader members (by decide) (by decide)] at hobject
    rw [Json.metadata?]
    cases hm : Assoc.get? "metadata" members with
    | none =>
      simp only [hm, Option.some.injEq] at hobject ⊢
      subst hobject
      exact (Legible.metadata_of_decode _ (blank ObjectMeta) a hdecode
        (Assoc.get?_insert_self ..)).symm
    | some value =>
      simp only [hm, Option.map_eq_some_iff] at hobject ⊢
      obtain ⟨m, hread, rfl⟩ := hobject
      rw [hread, Legible.metadata_of_decode _ m a hdecode (Assoc.get?_insert_self ..)]
  | _ => simp [untyped?] at hobject

end Reading

end AppOperator
