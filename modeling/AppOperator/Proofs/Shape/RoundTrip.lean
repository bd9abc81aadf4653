import AppOperator.Proofs.Time.Notation
import AppOperator.Shape.Codec

/-!
# What is written is read back

What is written is read back, times in whole seconds, for every shape that
is **distinct**: no field has the name of another or of the header, no two
words of a choice are the same, and members of any name are only collected
after all names that are taken. If besides no time is cut, the shape is
**exact**, and reading undoes writing. Both conditions are computations on
the shape, so for a given type they are checked by running them.

A record is written field by field, each field being put into the members
that the rest has made, and read field by field from the members of all. The
statement that carries the induction is therefore not about the members that
a table has written but about any members that agree with them on the names
which are not taken yet (`Table.decode_of_agree`).

A written value is cut to whole seconds and then read, so what comes back is a
function of the value, `Shape.inSeconds`, and the theorem is an equation for all
distinct shapes. That types with a time in them are not exact is no defect of the
conditions: of two times within one second only one can be read back.
-/

namespace AppOperator

/-! ## Listings

Facts about members that are listed by name: setting one to the value that it has,
leaving some out, and collecting those that have no field. -/

namespace Assoc

variable {κ ν : Type} [Ord κ] [DecidableEq κ]

/-- Setting a key to the value it has changes nothing. -/
theorem insert_of_get?_eq [Std.TransOrd κ] [Std.LawfulEqOrd κ] {k : κ} {v : ν}
    {m : List (κ × ν)} (hs : Sorted m) (h : get? k m = some v) : insert k v m = m := by
  induction m with
  | nil => simp at h
  | cons p rest ih =>
    obtain ⟨j, w⟩ := p
    have hrest := List.pairwise_cons.1 hs
    rw [get?_cons] at h
    by_cases hkj : k = j
    · subst hkj
      rw [if_pos rfl] at h
      have hkk : compare k k = .eq := Std.ReflCmp.compare_self
      rw [insert, hkk, Option.some.inj h]
    · rw [if_neg hkj] at h
      have hlt : compare j k = .lt := hrest.1 _ (mem_of_get?_eq_some h)
      rw [insert, Std.OrientedCmp.gt_of_lt hlt, ih hrest.2 h]

end Assoc

theorem Dict.get?_foldl_erase {κ ν : Type} [Ord κ] [DecidableEq κ] (names : List κ) (d : Dict κ ν)
    (k : κ) : (names.foldl Dict.erase d).get? k = if k ∈ names then none else d.get? k := by
  induction names generalizing d with
  | nil => simp
  | cons n rest ih =>
    rw [List.foldl_cons, ih, Dict.get?_erase]
    by_cases hk : k = n
    · simp [hk]
    · simp [hk]

/-- Collecting the members whose names are not taken finds the members that
agree with it on those names. -/
theorem Extras.ofMembers_eq {taken : List String} {members : List (String × Json)}
    (hs : Assoc.Sorted members) (v : Extras taken)
    (h : ∀ n, n ∉ taken → Assoc.get? n members = v.val.get? n) :
    Extras.ofMembers taken members = v := by
  refine Subtype.ext (Dict.ext fun n => ?_)
  show (taken.foldl Dict.erase (Dict.ofList members)).get? n = v.val.get? n
  rw [Dict.get?_foldl_erase]
  split
  · rename_i hn
    exact (v.property n hn).symm
  · rename_i hn
    rw [← h n hn]
    exact congrArg (Assoc.get? n) (Assoc.ofList_of_sorted hs)

/-! ## Distinct and exact shapes

The conditions are computations on shapes that carry along the names that are taken so
far, by the header and by the fields before. They are as weak as the proofs allow. A
type that fails one of them has fields that cannot be told apart, and then there are
values that are not read back. -/

/-- The names that a style puts beside those of the fields. -/
def Style.taken (style : Style) : List String :=
  if style.header.isSome then ["apiVersion", "kind"] else []

mutual
/-- **Whether what is written can be told apart** when it is read. -/
def Shape.distinct : Shape → Bool
  | .choice first others => decide (first :: others).Nodup
  | .list item => item.distinct
  | .map value => value.distinct
  | .record style fields => fields.distinct style.taken
  | _ => true
/-- Whether the fields of a table can be told apart, from each other and from
members that have some names taken. -/
def Table.distinct (taken : List String) : Table → Bool
  | .done => true
  | .extras names => taken.all (names.contains ·)
  | .optional name shape rest =>
    !taken.contains name && shape.distinct && rest.distinct (name :: taken)
  | .always _ name shape rest =>
    !taken.contains name && shape.distinct && rest.distinct (name :: taken)
end

mutual
/-- **What a value is once it is written**: the same, with its times in whole seconds. -/
def Shape.inSeconds : (s : Shape) → s.Val → s.Val
  | .instant, t => t.inSeconds
  | .list item, xs => xs.map item.inSeconds
  | .map value, d => d.map value.inSeconds
  | .record _ fields, v => fields.inSeconds v
  | .text, v | .flag, v | .int32, v | .int64, v | .bytes, v | .timestamp, v | .intOrText, v
  | .json, v | .choice _ _, v => v
/-- The values of a table, with their times in whole seconds. -/
def Table.inSeconds : (t : Table) → t.Val → t.Val
  | .done, v => v
  | .extras _, v => v
  | .optional _ shape rest, (x, v) => (x.map shape.inSeconds, rest.inSeconds v)
  | .always _ _ shape rest, (x, v) => (shape.inSeconds x, rest.inSeconds v)
end

mutual
/-- **Whether reading undoes writing.** -/
def Shape.exact : Shape → Bool
  | .instant => false
  | .choice first others => decide (first :: others).Nodup
  | .list item => item.exact
  | .map value => value.exact
  | .record style fields => fields.exact style.taken
  | _ => true
/-- Whether a table can be read back from members that have some names taken. -/
def Table.exact (taken : List String) : Table → Bool
  | .done => true
  | .extras names => taken.all (names.contains ·)
  | .optional name shape rest => !taken.contains name && shape.exact && rest.exact (name :: taken)
  | .always _ name shape rest => !taken.contains name && shape.exact && rest.exact (name :: taken)
end

mutual
/-- An exact shape is distinct, and there is nothing to cut in its values. -/
theorem Shape.inSeconds_of_exact : ∀ s : Shape, s.exact = true →
    s.distinct = true ∧ ∀ v : s.Val, s.inSeconds v = v
  | .text, _ | .flag, _ | .int32, _ | .int64, _ | .bytes, _ | .timestamp, _ | .intOrText, _
  | .json, _ => ⟨rfl, fun _ => rfl⟩
  | .instant, h => by simp [Shape.exact] at h
  | .choice _ _, h => ⟨h, fun _ => rfl⟩
  | .list item, h => by
    obtain ⟨hdistinct, hsame⟩ := item.inSeconds_of_exact h
    refine ⟨hdistinct, fun (xs : List item.Val) => ?_⟩
    rw [Shape.inSeconds, funext hsame]
    exact List.map_id xs
  | .map value, h => by
    obtain ⟨hdistinct, hsame⟩ := value.inSeconds_of_exact h
    refine ⟨hdistinct, fun d => Dict.ext fun k => ?_⟩
    rw [Shape.inSeconds, funext hsame, Dict.get?_map]
    exact Option.map_id_apply
  | .record style fields, h => by
    obtain ⟨hdistinct, hsame⟩ := fields.inSeconds_of_exact style.taken h
    exact ⟨hdistinct, fun v => hsame v⟩
/-- An exact table is distinct, and there is nothing to cut in its values. -/
theorem Table.inSeconds_of_exact : ∀ (t : Table) (taken : List String), t.exact taken = true →
    t.distinct taken = true ∧ ∀ v : t.Val, t.inSeconds v = v
  | .done, _, _ => ⟨rfl, fun _ => rfl⟩
  | .extras _, _, h => ⟨h, fun _ => rfl⟩
  | .optional name shape rest, taken, h => by
    simp only [Table.exact, Bool.and_eq_true] at h
    obtain ⟨hshape, hsame⟩ := shape.inSeconds_of_exact h.1.2
    obtain ⟨hrest, hsames⟩ := rest.inSeconds_of_exact _ h.2
    refine ⟨by simp only [Table.distinct, Bool.and_eq_true]; exact ⟨⟨h.1.1, hshape⟩, hrest⟩, ?_⟩
    rintro ⟨x, v⟩
    rw [Table.inSeconds, funext hsame, hsames]
    exact congrArg (·, v) Option.map_id_apply
  | .always absence name shape rest, taken, h => by
    simp only [Table.exact, Bool.and_eq_true] at h
    obtain ⟨hshape, hsame⟩ := shape.inSeconds_of_exact h.1.2
    obtain ⟨hrest, hsames⟩ := rest.inSeconds_of_exact _ h.2
    refine ⟨by simp only [Table.distinct, Bool.and_eq_true]; exact ⟨⟨h.1.1, hshape⟩, hrest⟩, ?_⟩
    rintro ⟨x, v⟩
    rw [Table.inSeconds, hsame, hsames]
end

/-! ## What a table writes

What is written is in order, has nothing under names that are taken, and is never
null. The last matters because null is how a field is unset: a value that was written
as null would be read as no value. -/

/-- The members that a table writes are in order. -/
theorem Table.sorted_encode : ∀ (t : Table) (v : t.Val), Assoc.Sorted (t.encode v)
  | .done, _ => List.Pairwise.nil
  | .extras _, v => v.val.sorted
  | .optional _ _ rest, (none, v) => by
    rw [Table.encode]
    exact rest.sorted_encode v
  | .optional _ _ rest, (some _, v) => by
    rw [Table.encode]
    exact Assoc.sorted_insert _ _ (rest.sorted_encode v)
  | .always _ _ _ rest, (_, v) => by
    rw [Table.encode]
    exact Assoc.sorted_insert _ _ (rest.sorted_encode v)

/-- A distinct table writes nothing under a name that is taken. -/
theorem Table.get?_encode_of_taken : ∀ (t : Table) (taken : List String) (v : t.Val) (n : String),
    t.distinct taken = true → n ∈ taken → Assoc.get? n (t.encode v) = none
  | .done, _, _, _, _, _ => rfl
  | .extras names, taken, v, n, h, hn => by
    simp only [Table.distinct, List.all_eq_true, List.contains_iff_mem] at h
    exact v.property n (h n hn)
  | .optional name shape rest, taken, (x, v), n, h, hn => by
    simp only [Table.distinct, Bool.and_eq_true, Bool.not_eq_true', List.contains_eq_mem,
      decide_eq_false_iff_not] at h
    have hrest := rest.get?_encode_of_taken _ v n h.2 (List.mem_cons_of_mem _ hn)
    cases x with
    | none => rw [Table.encode, hrest]
    | some x =>
      have hne : n ≠ name := fun e => h.1.1 (e ▸ hn)
      rw [Table.encode, Assoc.get?_insert, if_neg hne, hrest]
  | .always _ name shape rest, taken, (x, v), n, h, hn => by
    simp only [Table.distinct, Bool.and_eq_true, Bool.not_eq_true', List.contains_eq_mem,
      decide_eq_false_iff_not] at h
    have hne : n ≠ name := fun e => h.1.1 (e ▸ hn)
    rw [Table.encode, Assoc.get?_insert, if_neg hne,
      rest.get?_encode_of_taken _ v n h.2 (List.mem_cons_of_mem _ hn)]

/-- No value is written as `null`, which would unset it. -/
theorem Shape.encode_ne_null : ∀ (s : Shape) (v : s.Val), s.encode v ≠ .null
  | .text, _ | .flag, _ | .int32, _ | .int64, _ | .bytes, _ | .timestamp, _ | .instant, _
  | .choice _ _, _ | .list _, _ | .map _, _ | .record _ _, _ => by
    simp [Shape.encode]
  | .intOrText, .int _ | .intOrText, .text _ => by simp [Shape.encode]
  | .json, v => by
    rw [Shape.encode]
    exact v.property

/-! ## Reading one field

Reading a table reads each field from all members, independently of the other fields.
The lemmas say this for the two kinds of fields in the form of an equivalence, so that
a successful reading can be taken apart and put together. -/

/-- What a member that may be unset is read as. -/
def Shape.decodeOption (s : Shape) : Option Json → Option (Option s.Val)
  | none => some none
  | some .null => some none
  | some j => (s.decode j).map some

theorem Shape.decodeOption_some (s : Shape) {j : Json} (h : j ≠ .null) :
    s.decodeOption (some j) = (s.decode j).map some := by
  cases j with
  | null => exact absurd rfl h
  | _ => rfl

/-- Nothing is read of a member that is not there or null, and only of one. -/
theorem Shape.decodeOption_eq_some_none_iff (s : Shape) (member : Option Json) :
    s.decodeOption member = some none ↔ member = none ∨ member = some .null := by
  cases member with
  | none => exact ⟨fun _ => .inl rfl, fun _ => rfl⟩
  | some j =>
    by_cases h : j = .null
    · exact ⟨fun _ => .inr (congrArg some h), fun _ => h ▸ rfl⟩
    · simp [s.decodeOption_some h, h]

/-- A field and the fields after it are read apart. -/
theorem eq_some_mk_iff {α β : Type} {first : Option α} {rest : Option β} {x : α} {v : β} :
    (first.bind fun x => rest.map fun v => (x, v)) = some (x, v)
      ↔ first = some x ∧ rest = some v := by
  cases first <;> cases rest <;> simp

/-- **A field that may be unset is read from its member**, whatever the other fields are. -/
theorem Table.decode_optional_eq_some_iff {name : String} {shape : Shape} {rest : Table}
    {members : List (String × Json)} {x : Option shape.Val} {v : rest.Val} :
    (Table.optional name shape rest).decode members = some (x, v)
      ↔ shape.decodeOption (Assoc.get? name members) = some x ∧ rest.decode members = some v := by
  have hread : (Table.optional name shape rest).decode members
      = (shape.decodeOption (Assoc.get? name members)).bind fun x =>
        (rest.decode members).map fun v => (x, v) := by
    rw [Table.decode]
    rcases Assoc.get? name members with _ | _ | _ <;> cases rest.decode members <;> rfl
  rw [hread, eq_some_mk_iff]

/-- **A field that always has a value** is read from its member, if that is there. -/
theorem Table.decode_always_eq_some_iff {absence : Absence} {name : String} {shape : Shape}
    {rest : Table} {members : List (String × Json)} {x : shape.Val} {v : rest.Val} {j : Json}
    (hj : Assoc.get? name members = some j) (hnull : j ≠ .null) :
    (Table.always absence name shape rest).decode members = some (x, v)
      ↔ shape.decode j = some x ∧ rest.decode members = some v := by
  have hread : (Table.always absence name shape rest).decode members
      = (shape.decode j).bind fun x => (rest.decode members).map fun v => (x, v) := by
    cases j with
    | null => exact absurd rfl hnull
    | _ =>
      simp only [Table.decode, hj]
      cases rest.decode members <;> rfl
  rw [hread, eq_some_mk_iff]

/-- The fields after one that always has a value. -/
theorem Table.decode_of_always {absence : Absence} {name : String} {shape : Shape} {rest : Table}
    {members : List (String × Json)} {v : (Table.always absence name shape rest).Val}
    (h : (Table.always absence name shape rest).decode members = some v) :
    rest.decode members = some v.2 := by
  obtain ⟨x, r⟩ := v
  simp only [Table.decode] at h
  split at h
  · simp at h
  all_goals
    simp only [Option.bind_eq_bind, Option.bind_eq_some_iff] at h
    obtain ⟨_, -, r', hr, hv⟩ := h
    rw [hr, ← (Prod.mk.inj (Option.some.inj hv)).2]

/-! ## Reading what was written

Along the shape, with the statement for tables in the general form that the module's
description explains: the members need not be those that the table has written, as
long as they agree with them on the names that are not taken. That is true of the
members of the whole record for each of its tables, and it stays true when the next
field is taken off. -/

theorem int32?_toInt (n : Int32) : int32? n.toInt = some n := by
  have hlt := Int32.toInt_lt n
  have hle := Int32.le_toInt n
  rw [int32?, if_pos (by omega), Int32.ofInt_toInt]

theorem int64?_toInt (n : Int64) : int64? n.toInt = some n := by
  have hlt := Int64.toInt_lt n
  have hle := Int64.le_toInt n
  rw [int64?, if_pos (by omega), Int64.ofInt_toInt]

/-- A word is found at its own position if no word stands before it again. -/
theorem wordIndex?_get {first : String} {others : List String}
    (h : (first :: others).Nodup) (i : Fin (others.length + 1)) :
    wordIndex? first others ((first :: others).get i) = some i := by
  rw [wordIndex?, List.finIdxOf?_eq_some_iff]
  exact ⟨rfl, fun j hj he => List.pairwise_iff_getElem.1 h j i j.isLt i.isLt hj he⟩

/-- Reading the items of a written list. -/
theorem mapM_decode_map {α : Type} (write : α → Json) (read : Json → Option α) (cut : α → α)
    (h : ∀ a, read (write a) = some (cut a)) (xs : List α) :
    (xs.map write).mapM read = some (xs.map cut) := by
  induction xs with
  | nil => rfl
  | cons x rest ih => simp [h, ih]

/-- Reading the values of some pairs leaves their keys. -/
theorem mapM_values_eq_some_iff {α : Type} (read : Json → Option α)
    (members : List (String × Json)) (values : List (String × α)) :
    members.mapM (fun p => (read p.2).map fun v => (p.1, v)) = some values
      ↔ Assoc.mapValues read members = Assoc.mapValues some values := by
  induction members generalizing values with
  | nil => cases values <;> simp [Assoc.mapValues]
  | cons p rest ih =>
    obtain ⟨k, j⟩ := p
    rw [List.mapM_cons]
    cases values with
    | nil => simp [Assoc.mapValues, Option.bind_eq_some_iff]
    | cons q others =>
      have ih := ih others
      simp only [Assoc.mapValues, List.map_cons, List.cons.injEq, Prod.mk.injEq] at ih ⊢
      rw [← ih]
      simp only [Option.bind_eq_bind, Option.bind_eq_some_iff, Option.map_eq_some_iff]
      constructor
      · rintro ⟨_, ⟨v, hv, rfl⟩, _, hrest, heq⟩
        cases heq
        exact ⟨⟨rfl, hv⟩, hrest⟩
      · rintro ⟨⟨rfl, hv⟩, hrest⟩
        exact ⟨_, ⟨_, hv, rfl⟩, _, hrest, rfl⟩

/-- **A map is read from an object** by reading each of its members. -/
theorem Shape.decode_map_eq_some_iff (value : Shape) {members : List (String × Json)}
    (hs : Assoc.Sorted members) (d : Dict String value.Val) :
    (Shape.map value).decode (.obj members) = some d
      ↔ ∀ k, (Assoc.get? k members).map value.decode = (d.get? k).map some := by
  rw [Shape.decode, Option.map_eq_some_iff]
  constructor
  · rintro ⟨values, hread, rfl⟩ k
    have hvalues := (mapM_values_eq_some_iff _ _ _).1 hread
    have hsorted : Assoc.Sorted (Assoc.mapValues some values) :=
      hvalues ▸ Assoc.sorted_mapValues value.decode hs
    replace hsorted : Assoc.Sorted values := List.pairwise_map.1 hsorted
    have hlisted : (Dict.ofList values).get? k = Assoc.get? k values :=
      congrArg (Assoc.get? k) (Assoc.ofList_of_sorted hsorted)
    rw [hlisted, ← Assoc.get?_mapValues, hvalues, Assoc.get?_mapValues]
  · intro h
    have hsame : (Dict.mk members hs).map value.decode = d.map some :=
      Dict.ext fun k => by rw [Dict.get?_map, Dict.get?_map]; exact h k
    refine ⟨d.entries, (mapM_values_eq_some_iff _ _ _).2 (congrArg Dict.entries hsame), ?_⟩
    exact Dict.ofList_entries d

namespace Style

/-- A style lets what it writes be read. -/
theorem admits_addTo (style : Style) (members : List (String × Json)) :
    style.admits (style.addTo members) = true := by
  unfold Style.admits Style.addTo
  cases style.header with
  | none => rfl
  | some h => simp [Header.admits, Header.addTo, Assoc.get?_insert]

theorem sorted_addTo (style : Style) {members : List (String × Json)}
    (h : Assoc.Sorted members) : Assoc.Sorted (style.addTo members) := by
  unfold Style.addTo
  cases style.header with
  | none => exact h
  | some _ => exact Assoc.sorted_insert _ _ (Assoc.sorted_insert _ _ h)

/-- A header touches no other members. -/
theorem get?_addTo (style : Style) (members : List (String × Json)) {n : String}
    (h : n ∉ style.taken) : Assoc.get? n (style.addTo members) = Assoc.get? n members := by
  unfold Style.addTo
  cases hh : style.header with
  | none => rfl
  | some _ =>
    rw [Style.taken, hh] at h
    simp only [Option.isSome_some, if_true, List.mem_cons, List.not_mem_nil, or_false, not_or] at h
    show Assoc.get? n (Assoc.insert _ _ (Assoc.insert _ _ members)) = _
    rw [Assoc.get?_insert, if_neg h.1, Assoc.get?_insert, if_neg h.2]

end Style

/-- Members that agree with a field and the fields after it have the field,
and agree with the others on all names but its own. -/
theorem agree_insert {members rest : List (String × Json)} {taken : List String} {name : String}
    {j : Json} (hfree : name ∉ taken)
    (agree : ∀ n, n ∉ taken → Assoc.get? n members = Assoc.get? n (Assoc.insert name j rest)) :
    Assoc.get? name members = some j
      ∧ ∀ n, n ∉ name :: taken → Assoc.get? n members = Assoc.get? n rest := by
  refine ⟨by rw [agree name hfree, Assoc.get?_insert_self], fun n hn => ?_⟩
  rw [List.mem_cons, not_or] at hn
  rw [agree n hn.2, Assoc.get?_insert, if_neg hn.1]

mutual
/-- **What is written is read back**, in whole seconds. -/
theorem Shape.decode_encode_inSeconds : ∀ (s : Shape) (v : s.Val), s.distinct = true →
    s.decode (s.encode v) = some (s.inSeconds v)
  | .text, t, _ => by rw [Shape.encode, Shape.decode, Shape.inSeconds]
  | .flag, b, _ => by rw [Shape.encode, Shape.decode, Shape.inSeconds]
  | .int32, n, _ => by
    rw [Shape.encode, Shape.decode]
    exact int32?_toInt n
  | .int64, n, _ => by
    rw [Shape.encode, Shape.decode]
    exact int64?_toInt n
  | .bytes, b, _ => by
    rw [Shape.encode, Shape.decode]
    exact Base64.decode?_encode b
  | .timestamp, t, _ => by
    rw [Shape.encode, Shape.decode]
    exact Timestamp.parse?_render t
  | .instant, t, _ => by
    rw [Shape.encode, Shape.decode]
    exact Instant.parse?_render t.toTimestamp
  | .intOrText, .int n, _ => by
    rw [Shape.encode, Shape.decode, int32?_toInt]
    rfl
  | .intOrText, .text t, _ => by rw [Shape.encode, Shape.decode, Shape.inSeconds]
  | .json, ⟨j, hj⟩, _ => by
    rw [Shape.encode, Shape.decode, dif_pos hj, Shape.inSeconds]
  | .choice first others, i, h => by
    rw [Shape.encode, Shape.decode]
    exact wordIndex?_get (of_decide_eq_true h) i
  | .list item, xs, h => by
    rw [Shape.encode, Shape.decode]
    exact mapM_decode_map _ _ _ (fun x => item.decode_encode_inSeconds x h) xs
  | .map value, d, h => by
    rw [Shape.encode, Shape.inSeconds]
    refine (value.decode_map_eq_some_iff (d.map value.encode).sorted _).2 fun k => ?_
    have hread : value.decode ∘ value.encode = some ∘ value.inSeconds :=
      funext fun v => value.decode_encode_inSeconds v h
    change ((d.map value.encode).get? k).map value.decode = _
    rw [Dict.get?_map, Dict.get?_map, Option.map_map, Option.map_map, hread]
  | .record style fields, v, h => by
    rw [Shape.encode, Shape.decode, if_pos (style.admits_addTo _)]
    exact fields.decode_of_agree style.taken v _ h (style.sorted_addTo (fields.sorted_encode v))
      fun n hn => style.get?_addTo _ hn
/-- **A table reads its values** from all members that agree with those it
writes on the names not taken. -/
theorem Table.decode_of_agree : ∀ (t : Table) (taken : List String) (v : t.Val)
    (members : List (String × Json)), t.distinct taken = true → Assoc.Sorted members →
    (∀ n, n ∉ taken → Assoc.get? n members = Assoc.get? n (t.encode v)) →
    t.decode members = some (t.inSeconds v)
  | .done, _, _, _, _, _, _ => rfl
  | .extras names, taken, v, members, h, hs, agree => by
    simp only [Table.distinct, List.all_eq_true, List.contains_iff_mem] at h
    rw [Table.decode, Table.inSeconds,
      Extras.ofMembers_eq hs v fun n hn => agree n fun ht => hn (h n ht)]
  | .optional name shape rest, taken, (none, v), members, h, hs, agree => by
    simp only [Table.distinct, Bool.and_eq_true, Bool.not_eq_true', List.contains_eq_mem,
      decide_eq_false_iff_not] at h
    -- what is unset is not written, and no other field has the name
    have hname : Assoc.get? name members = none := by
      rw [agree name h.1.1, Table.encode]
      exact rest.get?_encode_of_taken _ v name h.2 (List.mem_cons_self ..)
    have hrest := rest.decode_of_agree (name :: taken) v members h.2 hs fun n hn => by
      rw [agree n fun ht => hn (List.mem_cons_of_mem _ ht), Table.encode]
    exact Table.decode_optional_eq_some_iff.2 ⟨by rw [hname]; rfl, hrest⟩
  | .optional name shape rest, taken, (some x, v), members, h, hs, agree => by
    simp only [Table.distinct, Bool.and_eq_true, Bool.not_eq_true', List.contains_eq_mem,
      decide_eq_false_iff_not] at h
    obtain ⟨hname, hothers⟩ := agree_insert h.1.1 agree
    have hrest := rest.decode_of_agree (name :: taken) v members h.2 hs hothers
    have hx := shape.decode_encode_inSeconds x h.1.2
    refine Table.decode_optional_eq_some_iff.2 ⟨?_, hrest⟩
    rw [hname, shape.decodeOption_some (shape.encode_ne_null x), hx, Option.map_some,
      Option.map_some]
  | .always absence name shape rest, taken, (x, v), members, h, hs, agree => by
    simp only [Table.distinct, Bool.and_eq_true, Bool.not_eq_true', List.contains_eq_mem,
      decide_eq_false_iff_not] at h
    obtain ⟨hname, hothers⟩ := agree_insert h.1.1 agree
    have hrest := rest.decode_of_agree (name :: taken) v members h.2 hs hothers
    have hx := shape.decode_encode_inSeconds x h.1.2
    exact (Table.decode_always_eq_some_iff hname (shape.encode_ne_null x)).2 ⟨hx, hrest⟩
end

/-- **Reading undoes writing.** -/
theorem Shape.decode_encode (s : Shape) (v : s.Val) (h : s.exact = true) :
    s.decode (s.encode v) = some v := by
  obtain ⟨hdistinct, hsame⟩ := s.inSeconds_of_exact h
  rw [s.decode_encode_inSeconds v hdistinct, hsame]

end AppOperator
