import AppOperator.Proofs.Shape.Written

/-!
# What is kept of a stored object

A child is brought up to date by reading what is stored of it, setting what
the application asks for and putting the whole in its place. Whatever reading
drops is therefore dropped from the cluster, also where someone else has put
it there. What is kept of a value is a relation between the value and what is
written of it (`Json.KeptIn`): every member that has a value is there again,
at every depth, times being written in whole seconds.

Reading drops what a shape does not know, and nothing else: a value is kept if
and only if its shape **knows** it (`Shape.keepsKnown`), which is a computation
on the shape and the value. A shape knows an object if for every member that
has a value there is a field, or the shape collects such members, and what is
in the fields is known in turn. The equivalence needs that two parts of a
record are told apart by their names alone, so that it can be shown of the
names of the fields (`Table.keepsKnown`) and of all other names separately.

For what the resources of other operators ask for, it says which settings a
write leaves alone: in a service monitor and its endpoints all that are not
modelled, in a route or a Knative service none.
-/

namespace AppOperator
namespace Json

/-! ## Values in order

An object as it is read has its members listed by rising name, without repetitions.
The relation below compares objects by looking members up, and it is only then that a
member which is listed is the one that is found. -/

mutual
/-- Whether the members of every object in a value are listed in order, as
they are in what is read from a cluster. -/
def Ordered : Json → Prop
  | .arr items => OrderedItems items
  | .obj members => Assoc.Sorted members ∧ OrderedMembers members
  | _ => True
/-- Whether the items of an array are in order. -/
def OrderedItems : List Json → Prop
  | [] => True
  | x :: rest => x.Ordered ∧ OrderedItems rest
/-- Whether the values of members are in order. -/
def OrderedMembers : List (String × Json) → Prop
  | [] => True
  | (_, x) :: rest => x.Ordered ∧ OrderedMembers rest
end

theorem orderedItems_iff {xs : List Json} : OrderedItems xs ↔ ∀ x ∈ xs, x.Ordered := by
  induction xs with
  | nil => simp [OrderedItems]
  | cons x rest ih => simp [OrderedItems, ih]

theorem orderedMembers_iff {ms : List (String × Json)} :
    OrderedMembers ms ↔ ∀ p ∈ ms, p.2.Ordered := by
  induction ms with
  | nil => simp [OrderedMembers]
  | cons p rest ih => simp [OrderedMembers, ih]

/-- The members of an object in order are in order. -/
theorem Ordered.of_get? {ms : List (String × Json)} {name : String} {j : Json}
    (h : OrderedMembers ms) (hj : Assoc.get? name ms = some j) : j.Ordered :=
  orderedMembers_iff.1 h _ (Assoc.mem_of_get?_eq_some hj)

/-! ## What is kept

The relation goes through both values together: arrays item by item, objects member by
member, where more members may be on the right. It does not say that nothing is added,
only that nothing is lost, and a member without a value counts as nothing.

Of the members of an object it is more convenient to say what becomes of each name.
That it is kept is then a statement about two lookups, which does not change when a
member of another name is inserted. -/

mutual
/-- **Whether a value is kept in another**: every member that has a value is
there, with a value that its own is kept in; a time may be written in whole
seconds. -/
def KeptIn : Json → Json → Prop
  | .arr xs, .arr ys => KeptItems xs ys
  | .obj ms, .obj ns => KeptMembers ms ns
  | .str t, .str u => t = u ∨ ∃ time, Timestamp.parse? t = some time ∧ u = time.render
  | j, n => j = n
/-- Whether the items of an array are kept in those of another, one in one. -/
def KeptItems : List Json → List Json → Prop
  | [], [] => True
  | x :: xs, y :: ys => x.KeptIn y ∧ KeptItems xs ys
  | _, _ => False
/-- Whether members are kept among others. -/
def KeptMembers : List (String × Json) → List (String × Json) → Prop
  | [], _ => True
  | (name, x) :: rest, ns =>
    (x ≠ .null → ∃ y, Assoc.get? name ns = some y ∧ x.KeptIn y) ∧ KeptMembers rest ns
end

/-- Whether the member of a name is kept among others. -/
def KeptAt (name : String) (ms ns : List (String × Json)) : Prop :=
  ∀ x, Assoc.get? name ms = some x → x ≠ .null → ∃ y, Assoc.get? name ns = some y ∧ x.KeptIn y

theorem keptMembers_iff {ms ns : List (String × Json)} (hs : Assoc.Sorted ms) :
    KeptMembers ms ns ↔ ∀ name, KeptAt name ms ns := by
  have hmem : KeptMembers ms ns ↔ ∀ p ∈ ms, p.2 ≠ .null →
      ∃ y, Assoc.get? p.1 ns = some y ∧ p.2.KeptIn y := by
    clear hs
    induction ms with
    | nil => simp [KeptMembers]
    | cons p rest ih => simp [KeptMembers, ih]
  rw [hmem]
  constructor
  · exact fun h name x hx => h (name, x) (Assoc.mem_of_get?_eq_some hx)
  · exact fun h p hp => h p.1 p.2 (Assoc.get?_of_mem hs hp)

mutual
/-- A value in order is kept in itself. -/
theorem keptIn_refl : ∀ j : Json, j.Ordered → j.KeptIn j
  | .null, _ | .bool _, _ | .int _, _ | .real _, _ => rfl
  | .str _, _ => .inl rfl
  | .arr xs, h => keptItems_refl xs h
  | .obj ms, h => (keptMembers_iff h.1).2 fun _ x hx _ =>
    ⟨x, hx, keptMember_refl ms h.2 _ (Assoc.mem_of_get?_eq_some hx)⟩
/-- So are the items of an array. -/
theorem keptItems_refl : ∀ xs : List Json, OrderedItems xs → KeptItems xs xs
  | [], _ => trivial
  | x :: rest, h => ⟨keptIn_refl x h.1, keptItems_refl rest h.2⟩
/-- So is the value of each member. -/
theorem keptMember_refl : ∀ ms : List (String × Json), OrderedMembers ms →
    ∀ p ∈ ms, p.2.KeptIn p.2
  | [], _, _, h => nomatch h
  | (_, x) :: rest, h, p, hp => by
    rcases List.mem_cons.1 hp with rfl | hp
    · exact keptIn_refl x h.1
    · exact keptMember_refl rest h.2 p hp
end

variable {name : String} {ms ns ns' : List (String × Json)}

/-- Whether a member is kept depends on the member of its name alone. -/
theorem keptAt_congr (h : Assoc.get? name ns = Assoc.get? name ns') :
    KeptAt name ms ns ↔ KeptAt name ms ns' := by
  simp only [KeptAt, h]

/-- Whether a member that may have no value is kept, if it is known when one
that has a value is. -/
theorem keptAt_iff_all {knows : Json → Bool}
    (h : ∀ j, Assoc.get? name ms = some j → j ≠ .null →
      ∃ w, Assoc.get? name ns = some w ∧ (j.KeptIn w ↔ knows j = true)) :
    KeptAt name ms ns
      ↔ ((Assoc.get? name ms).all fun j => decide (j = .null) || knows j) = true := by
  unfold KeptAt
  cases hj : Assoc.get? name ms with
  | none => simp
  | some j =>
    by_cases hnull : j = .null
    · simp [hnull]
    · obtain ⟨w, hw, hiff⟩ := h j hj hnull
      simp [hnull, hw, hiff]

/-- What holds of all members holds of the member of each name. -/
theorem all_members_iff {f : String → Json → Bool} (hs : Assoc.Sorted ms) :
    (ms.all fun p => f p.1 p.2) = true ↔ ∀ name, ((Assoc.get? name ms).all (f name)) = true := by
  simp only [List.all_eq_true, Option.all_eq_true]
  constructor
  · exact fun h name x hx => h (name, x) (Assoc.mem_of_get?_eq_some hx)
  · exact fun h p hp => h p.1 p.2 (Assoc.get?_of_mem hs hp)

/-- Whether items are kept, if each is when it is known. -/
theorem keptItems_iff_all {α : Type} {read : Json → Option α} {write : α → Json}
    {knows : Json → Bool} {xs : List Json} {vs : List α}
    (h : ∀ x ∈ xs, ∀ v, read x = some v → (x.KeptIn (write v) ↔ knows x = true))
    (hread : List.Forall₂ (fun x v => read x = some v) xs vs) :
    KeptItems xs (vs.map write) ↔ xs.all knows = true := by
  induction hread with
  | nil => simp [KeptItems]
  | cons hx hrest ih =>
    rw [List.map_cons, KeptItems, List.all_cons, Bool.and_eq_true,
      h _ List.mem_cons_self _ hx, ih fun x hmem => h x (List.mem_cons_of_mem _ hmem)]

end Json

/-! ## What is known

Knowing is a computation. It is defined next to reading, by recursion over the shape,
and asks of each member whether there is a place for it; nothing in it depends on what
the member would be read as. So whether something will be lost can be found out before
anything is read. -/

/-- Whether a table has a place for the member of a name. -/
def Table.places (t : Table) (name : String) : Bool := t.names.contains name || t.collects name

mutual
/-- **Whether a shape knows all that is in a value**: there is a place for
every member that has a value, at every depth, and records and words are
written as such. -/
def Shape.knows : Shape → Json → Bool
  | .choice _ _, .obj _ => false
  | .list item, .arr xs => xs.all item.knows
  | .map value, .obj ms => ms.all fun p => decide (p.2 = .null) || value.knows p.2
  | .record _ fields, .obj ms =>
    (ms.all fun p => decide (p.2 = .null) || fields.places p.1) && fields.knows ms
  | .record _ _, _ => false
  | _, _ => true
/-- Whether the fields of a table know all that is in their members. -/
def Table.knows : Table → List (String × Json) → Bool
  | .done, _ | .extras _, _ => true
  | .optional name shape rest, ms | .always _ name shape rest, ms =>
    ((Assoc.get? name ms).all fun j => decide (j = .null) || shape.knows j) && rest.knows ms
end

mutual
/-- Whether a shape is that of a part of an object: no record in it stands on
its own, no bytes, and no time with a fraction. -/
def Shape.isPart : Shape → Bool
  | .bytes | .instant => false
  | .list item => item.isPart
  | .map value => value.isPart
  | .record style fields => style.header.isNone && fields.isPart
  | _ => true
/-- Whether the shapes of all fields are. -/
def Table.isPart : Table → Bool
  | .done | .extras _ => true
  | .optional _ shape rest | .always _ _ shape rest => shape.isPart && rest.isPart
end

/-! ## Kept and known are the same

One lemma for each way to make a shape, and one for each way to make a table, from the
same statement about the parts. For what is written by itself it is immediate. For a
record the names are divided into those that there are fields for and all others: the
first are kept by the fields, one field at a time, and the others only where the table
collects them.

The recursion at the end puts the lemmas together. It is over shapes and tables at
once, and it is the only place where the two conditions on shapes are taken apart. -/

theorem toInt_of_int32? {n : Int} {k : Int32} (h : int32? n = some k) : k.toInt = n := by
  rw [int32?] at h
  split at h
  · rename_i hn
    rw [← Option.some.inj h]
    exact Int32.toInt_ofInt_of_le hn.1 hn.2
  · cases h

theorem toInt_of_int64? {n : Int} {k : Int64} (h : int64? n = some k) : k.toInt = n := by
  rw [int64?] at h
  split at h
  · rename_i hn
    rw [← Option.some.inj h]
    exact Int64.toInt_ofInt_of_le hn.1 hn.2
  · cases h

theorem get_of_wordIndex? {first word : String} {others : List String}
    {i : Fin (others.length + 1)} (h : wordIndex? first others word = some i) :
    (first :: others).get i = word :=
  (List.finIdxOf?_eq_some_iff.1 h).1

/-- The names of a distinct table's fields are not taken. -/
theorem Table.not_mem_names_of_taken {name : String} : ∀ (t : Table) (taken : List String),
    t.distinct taken = true → name ∈ taken → name ∉ t.names
  | .done, _, _, _ => List.not_mem_nil
  | .extras _, _, _, _ => List.not_mem_nil
  | .optional field shape rest, taken, h, hn | .always _ field shape rest, taken, h, hn => by
    simp only [Table.distinct, Bool.and_eq_true, Bool.not_eq_true', List.contains_eq_mem,
      decide_eq_false_iff_not] at h
    have hrest := rest.not_mem_names_of_taken _ h.2 (List.mem_cons_of_mem field hn)
    rw [names, List.mem_cons, not_or]
    exact ⟨fun e => h.1.1 (e ▸ hn), hrest⟩

/-- What a table has no field for is kept if and only if there is a place for it. -/
theorem Table.kept_others_iff (t : Table) {ms : List (String × Json)} {v : t.Val}
    (hs : Assoc.Sorted ms) (ho : Json.OrderedMembers ms) (h : t.decode ms = some v) :
    (∀ name ∉ t.names, Json.KeptAt name ms (t.encode v))
      ↔ (ms.all fun p => decide (p.2 = .null) || t.places p.1) = true := by
  rw [Json.all_members_iff (f := fun name x => decide (x = .null) || t.places name) hs]
  simp only [Option.all_eq_true, Bool.or_eq_true, decide_eq_true_eq, places,
    List.contains_iff_mem]
  constructor
  · intro hkept name x hx
    by_cases hname : name ∈ t.names
    · exact .inr (.inl hname)
    by_cases hnull : x = .null
    · exact .inl hnull
    obtain ⟨y, hy, -⟩ := hkept name hname x hx hnull
    rw [t.get?_encode_of_no_field hs v hname h] at hy
    split at hy
    · rename_i hcollects
      exact .inr (.inr hcollects)
    · cases hy
  · intro hplaces name hname x hx hnull
    obtain hcollects := ((hplaces name x hx).resolve_left hnull).resolve_left hname
    refine ⟨x, ?_, Json.keptIn_refl x (.of_get? ho hx)⟩
    rw [t.get?_encode_of_no_field hs v hname h, if_pos hcollects, hx]

/-- Setting a member keeps what is kept of the fields of a table that another name is taken for. -/
theorem Table.kept_insert_iff {t : Table} {name : String} {taken : List String} {w : Json}
    {ms ns : List (String × Json)} (h : t.distinct (name :: taken) = true) :
    (∀ other ∈ t.names, Json.KeptAt other ms (Assoc.insert name w ns))
      ↔ ∀ other ∈ t.names, Json.KeptAt other ms ns := by
  refine forall₂_congr fun other hother => Json.keptAt_congr ?_
  have hne : other ≠ name := fun e =>
    t.not_mem_names_of_taken _ h List.mem_cons_self (e ▸ hother)
  rw [Assoc.get?_insert, if_neg hne]

/-- **A shape by which known is the same as kept**: what is read by it is kept in what is
written of it if and only if the shape knows it. -/
def Shape.KeepsKnown (s : Shape) : Prop :=
  ∀ {j : Json} {v : s.Val}, j.Ordered → s.decode j = some v →
    (j.KeptIn (s.encode v) ↔ s.knows j = true)

/-- **Fields by which known is the same as kept**: the members that there are fields for
are kept if and only if the fields know what is in them. -/
def Table.KeepsKnown (t : Table) : Prop :=
  ∀ {ms : List (String × Json)} {v : t.Val}, Json.OrderedMembers ms → t.decode ms = some v →
    ((∀ name ∈ t.names, Json.KeptAt name ms (t.encode v)) ↔ t.knows ms = true)

namespace Shape.KeepsKnown

theorem text : Shape.KeepsKnown .text := fun {j v} _ h => by
  cases j with
  | str t =>
    obtain rfl := Option.some.inj h
    exact iff_of_true (.inl rfl) rfl
  | _ => exact absurd h nofun

theorem flag : Shape.KeepsKnown .flag := fun {j v} _ h => by
  cases j with
  | bool b =>
    obtain rfl := Option.some.inj h
    exact iff_of_true rfl rfl
  | _ => exact absurd h nofun

theorem int32 : Shape.KeepsKnown .int32 := fun {j v} _ h => by
  cases j with
  | int n => exact iff_of_true (congrArg Json.int (toInt_of_int32? h).symm) rfl
  | _ => exact absurd h nofun

theorem int64 : Shape.KeepsKnown .int64 := fun {j v} _ h => by
  cases j with
  | int n => exact iff_of_true (congrArg Json.int (toInt_of_int64? h).symm) rfl
  | _ => exact absurd h nofun

/-- A time is kept in whole seconds. -/
theorem timestamp : Shape.KeepsKnown .timestamp := fun {j v} _ h => by
  cases j with
  | str t => exact iff_of_true (.inr ⟨v, h, rfl⟩) rfl
  | _ => exact absurd h nofun

theorem intOrText : Shape.KeepsKnown .intOrText := fun {j v} _ h => by
  cases j with
  | int n =>
    obtain ⟨k, hk, rfl⟩ := Option.map_eq_some_iff.1 h
    exact iff_of_true (congrArg Json.int (toInt_of_int32? hk).symm) rfl
  | str t =>
    obtain rfl := Option.some.inj h
    exact iff_of_true (.inl rfl) rfl
  | _ => exact absurd h nofun

theorem json : Shape.KeepsKnown .json := fun {j v} ho h => by
  rw [Shape.decode] at h
  split at h
  · obtain rfl := Option.some.inj h
    exact iff_of_true (Json.keptIn_refl j ho) rfl
  · cases h

/-- A word may be given as an object, of which no more than the name is kept. -/
theorem choice (first : String) (others : List String) :
    Shape.KeepsKnown (.choice first others) := fun {j v} _ h => by
  cases j with
  | str word =>
    have hword := @get_of_wordIndex? first word others v h
    exact iff_of_true (.inl hword.symm) rfl
  | obj members => exact iff_of_false nofun nofun
  | _ => exact absurd h nofun

/-- A list is kept item by item. -/
theorem list {item : Shape} (hitem : item.KeepsKnown) : Shape.KeepsKnown (.list item) :=
  fun {j v} ho h => by
    cases j with
    | arr xs =>
      have hitems : ∀ x ∈ xs, ∀ v, item.decode x = some v →
          (x.KeptIn (item.encode v) ↔ item.knows x = true) := fun x hx _ =>
        hitem (Json.orderedItems_iff.1 ho x hx)
      exact Json.keptItems_iff_all hitems (forall₂_of_mapM h)
    | _ => exact absurd h nofun

/-- A map is kept member by member, and has a place for each. -/
theorem map {value : Shape} (hvalue : value.KeepsKnown) : Shape.KeepsKnown (.map value) :=
  fun {j v} ho h => by
    cases j with
    | obj ms =>
      have hread := (value.decode_map_eq_some_iff ho.1 v).1 h
      refine (Json.keptMembers_iff ho.1).trans (.trans ?_ (Json.all_members_iff
        (f := fun _ x => decide (x = .null) || value.knows x) ho.1).symm)
      refine forall_congr' fun name => Json.keptAt_iff_all fun x hx _ => ?_
      have hname := hread name
      rw [hx, Option.map_some] at hname
      obtain ⟨w, hw, hxw⟩ := Option.map_eq_some_iff.1 hname.symm
      refine ⟨value.encode w, ?_, hvalue (.of_get? ho.2 hx) hxw.symm⟩
      show (v.map value.encode).get? name = _
      rw [Dict.get?_map, hw, Option.map_some]
    | _ => exact absurd h nofun

/-- **A record is kept** if its fields know what is in their members and there is a place
for every other member that has a value. -/
theorem record {style : Style} {fields : Table} (hheader : style.header = none)
    (hfields : fields.KeepsKnown) : Shape.KeepsKnown (.record style fields) :=
  fun {j v} ho h => by
    cases j with
    | obj ms =>
      have hadd : style.addTo (fields.encode v) = fields.encode v := by
        rw [Style.addTo, hheader]
      rw [Shape.decode, Style.admits, hheader, if_pos rfl] at h
      rw [Shape.encode, hadd, Json.KeptIn, Json.keptMembers_iff ho.1, Shape.knows,
        Bool.and_eq_true, ← fields.kept_others_iff ho.1 ho.2 h, ← hfields ho.2 h]
      -- the names of the fields and all others
      constructor
      · exact fun hkept => ⟨fun name _ => hkept name, fun name _ => hkept name⟩
      · intro ⟨hothers, hnamed⟩ name
        by_cases hname : name ∈ fields.names
        · exact hnamed name hname
        · exact hothers name hname
    | arr items => exact iff_of_false nofun nofun
    | _ => exact absurd h nofun

end Shape.KeepsKnown

namespace Table.KeepsKnown

variable {name : String} {shape : Shape} {rest : Table} {taken : List String}

/-- A field that may be unset is kept if it is known, whatever is kept of the others. -/
theorem optional (hshape : shape.KeepsKnown) (hrest : rest.KeepsKnown)
    (hdistinct : rest.distinct (name :: taken) = true) :
    Table.KeepsKnown (.optional name shape rest) := by
  rintro ms ⟨x, v⟩ ho h
  obtain ⟨hx, hv⟩ := Table.decode_optional_eq_some_iff.1 h
  rw [Table.names, List.forall_mem_cons, Table.knows, Bool.and_eq_true, ← hrest ho hv]
  refine and_congr (Json.keptAt_iff_all fun j hj hnull => ?_) ?_
  · rw [hj, shape.decodeOption_some hnull] at hx
    obtain ⟨y, hy, rfl⟩ := Option.map_eq_some_iff.1 hx
    exact ⟨shape.encode y, Assoc.get?_insert_self _ _ _, hshape (.of_get? ho hj) hy⟩
  · cases x with
    | none => rfl
    | some x => exact Table.kept_insert_iff hdistinct

/-- So is a field that always has a value. -/
theorem always {absence : Absence} (hshape : shape.KeepsKnown) (hrest : rest.KeepsKnown)
    (hdistinct : rest.distinct (name :: taken) = true) :
    Table.KeepsKnown (.always absence name shape rest) := by
  rintro ms ⟨x, v⟩ ho h
  rw [Table.names, List.forall_mem_cons, Table.knows, Bool.and_eq_true,
    ← hrest ho (Table.decode_of_always h)]
  refine and_congr (Json.keptAt_iff_all fun j hj hnull => ?_) (Table.kept_insert_iff hdistinct)
  have hx := ((Table.decode_always_eq_some_iff hj hnull).1 h).1
  exact ⟨shape.encode x, Assoc.get?_insert_self _ _ _, hshape (.of_get? ho hj) hx⟩

end Table.KeepsKnown

mutual
/-- **A value is kept in what is written of it if and only if its shape knows it.** -/
theorem Shape.keepsKnown : ∀ s : Shape, s.isPart = true → s.distinct = true → s.KeepsKnown
  | .text, _, _ => Shape.KeepsKnown.text
  | .flag, _, _ => Shape.KeepsKnown.flag
  | .int32, _, _ => Shape.KeepsKnown.int32
  | .int64, _, _ => Shape.KeepsKnown.int64
  | .bytes, hpart, _ | .instant, hpart, _ => nomatch hpart
  | .timestamp, _, _ => Shape.KeepsKnown.timestamp
  | .intOrText, _, _ => Shape.KeepsKnown.intOrText
  | .json, _, _ => Shape.KeepsKnown.json
  | .choice first others, _, _ => Shape.KeepsKnown.choice first others
  | .list item, hpart, hdistinct => Shape.KeepsKnown.list (item.keepsKnown hpart hdistinct)
  | .map value, hpart, hdistinct => Shape.KeepsKnown.map (value.keepsKnown hpart hdistinct)
  | .record style fields, hpart, hdistinct => by
    rw [Shape.isPart, Bool.and_eq_true, Option.isNone_iff_eq_none] at hpart
    exact Shape.KeepsKnown.record hpart.1 (fields.keepsKnown style.taken hpart.2 hdistinct)
/-- So are the members that a table has fields for. -/
theorem Table.keepsKnown : ∀ (t : Table) (taken : List String), t.isPart = true →
    t.distinct taken = true → t.KeepsKnown
  | .done, _, _, _ => fun _ _ => iff_of_true nofun rfl
  | .extras _, _, _, _ => fun _ _ => iff_of_true nofun rfl
  | .optional name shape rest, taken, hpart, hdistinct => by
    rw [Table.isPart, Bool.and_eq_true] at hpart
    simp only [Table.distinct, Bool.and_eq_true] at hdistinct
    exact Table.KeepsKnown.optional (shape.keepsKnown hpart.1 hdistinct.1.2)
      (rest.keepsKnown _ hpart.2 hdistinct.2) hdistinct.2
  | .always absence name shape rest, taken, hpart, hdistinct => by
    rw [Table.isPart, Bool.and_eq_true] at hpart
    simp only [Table.distinct, Bool.and_eq_true] at hdistinct
    exact Table.KeepsKnown.always (shape.keepsKnown hpart.1 hdistinct.1.2)
      (rest.keepsKnown _ hpart.2 hdistinct.2) hdistinct.2
end

/-! ## What resources ask for

The resources of other operators hold what they ask for under `spec`, and it is of
that part that something can be lost. The equivalence is instantiated for three of
them; a member that a shape does not know is all it takes for the relation to fail,
and names that differ in the case of letters are different names. -/

/-- Whether what is asked for by a resource of a type, of which the members are
given, is kept when it is read and written. -/
def KeepsSpec (α : Type) [Shaped α] (members : List (String × Json)) : Prop :=
  ∀ a, decode α (.obj members) = some a →
    ∃ asked written, Assoc.get? "spec" members = some asked
      ∧ (encode a).get? "spec" = some written ∧ asked.KeptIn written

/-- Whether it is kept if and only if it is known to the shape of what such
resources ask for. -/
def KeepsKnownSpec (α β : Type) [Shaped α] [Shaped β] (members : List (String × Json)) : Prop :=
  ∀ a, decode α (.obj members) = some a →
    ∃ asked written, Assoc.get? "spec" members = some asked
      ∧ (encode a).get? "spec" = some written
      ∧ (asked.KeptIn written ↔ (shapeOf β).knows asked = true)

variable {members : List (String × Json)}

theorem keepsKnownSpec_of_resource {α β : Type} [Shaped α] [Shaped β] {about : Shape}
    {rest : Table} {apiVersion kind : String}
    (hshape : shapeOf α = .record (.resource apiVersion kind)
      (.always .refused "metadata" about (.always .refused "spec" (shapeOf β) rest)))
    (hpart : (shapeOf β).isPart = true) (hdistinct : (shapeOf β).distinct = true)
    (ho : (Json.obj members).Ordered) : KeepsKnownSpec α β members := by
  intro a ha
  obtain ⟨v, hv, rfl⟩ := Option.map_eq_some_iff.1 ha
  obtain ⟨asked, x, hasked, hread, hwritten⟩ := Shape.spec_of_decode_resource hshape hv
  refine ⟨asked, (shapeOf β).encode x, hasked, ?_, ?_⟩
  · rw [encode, Shaped.toVal_ofVal, hwritten]
  · exact (shapeOf β).keepsKnown hpart hdistinct (.of_get? ho.2 hasked) hread

theorem keepsKnownSpec_route (ho : (Json.obj members).Ordered) :
    KeepsKnownSpec Route RouteSpec members :=
  keepsKnownSpec_of_resource rfl (by decide +kernel) (by decide +kernel) ho

theorem keepsKnownSpec_knative (ho : (Json.obj members).Ordered) :
    KeepsKnownSpec KnativeService KnativeSpec members :=
  keepsKnownSpec_of_resource rfl (by decide +kernel) (by decide +kernel) ho

theorem keepsKnownSpec_monitor (ho : (Json.obj members).Ordered) :
    KeepsKnownSpec ServiceMonitor MonitorSpec members :=
  keepsKnownSpec_of_resource rfl (by decide +kernel) (by decide +kernel) ho

/-- **What a route, a Knative service or a service monitor asks for is kept
when it is read and written if and only if its shape knows all that is in it.** -/
theorem spec_kept_iff_known (members : List (String × Json)) (ho : (Json.obj members).Ordered) :
    KeepsKnownSpec Route RouteSpec members ∧ KeepsKnownSpec KnativeService KnativeSpec members
      ∧ KeepsKnownSpec ServiceMonitor MonitorSpec members :=
  ⟨keepsKnownSpec_route ho, keepsKnownSpec_knative ho, keepsKnownSpec_monitor ho⟩

/-- A route that sends a part of the requests to a second service. -/
def divided : List (String × Json) := [
  ("metadata", .obj [("name", .str "web")]),
  ("spec", .obj [
    ("alternateBackends", .arr [
      .obj [("kind", .str "Service"), ("name", .str "canary"), ("weight", .int 20)]]),
    ("to", .obj [("kind", .str "Service"), ("name", .str "web"), ("weight", .int 80)]),
    ("wildcardPolicy", .str "None")])]

/-- The shape of a route knows all of it, and so all of it is kept. -/
theorem spec_kept_iff_known_of_divided :
    (Json.obj divided).Ordered ∧ ∃ route asked written,
      decode Route (.obj divided) = some route
        ∧ Assoc.get? "spec" divided = some asked
        ∧ (encode route).get? "spec" = some written
        ∧ (shapeOf RouteSpec).knows asked = true ∧ asked.KeptIn written := by
  have hordered : (Json.obj divided).Ordered := by
    simp only [divided, Json.Ordered, Json.OrderedMembers, Json.OrderedItems, Assoc.Sorted]
    decide +kernel
  obtain ⟨route, hroute⟩ : ∃ route, decode Route (.obj divided) = some route :=
    Option.isSome_iff_exists.1 (by decide +kernel)
  obtain ⟨asked, written, hasked, hwritten, hiff⟩ :=
    (spec_kept_iff_known divided hordered).1 route hroute
  have hknown : (shapeOf RouteSpec).knows asked = true := by
    obtain rfl := Option.some.inj hasked
    decide +kernel
  exact ⟨hordered, route, asked, written, hroute, hasked, hwritten, hknown, hiff.2 hknown⟩

/-- A route that is encrypted again towards the pod, whose certificate the
router checks against an authority. The authority is given under the name that the
platform has for it, which is not that of the field. -/
def reencrypted : List (String × Json) := [
  ("metadata", .obj [("name", .str "web")]),
  ("spec", .obj [
    ("tls", .obj [("destinationCACertificate", .str "PEM"), ("termination", .str "reencrypt")]),
    ("to", .obj [("kind", .str "Service"), ("name", .str "web")])])]

/-- Not all that these resources ask for is kept. -/
theorem not_keepsSpec_of_reencrypted : ¬ ∀ members, (Json.obj members).Ordered →
    KeepsSpec Route members ∧ KeepsSpec KnativeService members
      ∧ KeepsSpec ServiceMonitor members := by
  intro hkeeps
  have hordered : (Json.obj reencrypted).Ordered := by
    simp only [reencrypted, Json.Ordered, Json.OrderedMembers, Assoc.Sorted]
    decide +kernel
  obtain ⟨route, hroute⟩ : ∃ route, decode Route (.obj reencrypted) = some route :=
    Option.isSome_iff_exists.1 (by decide +kernel)
  obtain ⟨asked, written, hasked, hwritten, hkept⟩ := (hkeeps reencrypted hordered).1 route hroute
  obtain ⟨asked', written', hasked', hwritten', hiff⟩ := keepsKnownSpec_route hordered route hroute
  obtain rfl := Option.some.inj (hwritten.symm.trans hwritten')
  obtain rfl := Option.some.inj (hasked.symm.trans hasked')
  have hunknown : (shapeOf RouteSpec).knows asked = false := by
    obtain rfl := Option.some.inj hasked
    decide +kernel
  rw [hiff, hunknown] at hkept
  exact Bool.false_ne_true hkept

end AppOperator
