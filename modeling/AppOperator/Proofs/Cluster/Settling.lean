import AppOperator.Proofs.Cluster.Child

/-!
# Computations that come to rest

A computation is quiet about what is stored if it comes to its answer
without writing anything (`Access.Quiet`). One that has succeeded settles if
it would be quiet from then on, as long as nothing it depends on is changed
(`Access.Settles`): the keys under which it writes, and those that it depends
on, are part of the statement.

That gives a law of composition. Of two computations one after the other the
first stays settled if the second writes nothing that the first depends on,
so a sequence of steps settles if the steps write under different keys and
read nothing that a later one writes (`settles_inOrder`).

Settling is shown for the operations on single objects first, each with its key, and
then only composed. No computation is taken apart into its calls a second time to see
that it settles.
-/

namespace AppOperator

/-- A key of one type is no key of another, and neither is one of another name. -/
theorem ObjectKey.of_eq_iff {α β : Type} [ApiObject α] [ApiObject β] {ns ns' name name' : String} :
    ObjectKey.of α ns name = ObjectKey.of β ns' name'
      ↔ objectType (α := α) = objectType (α := β) ∧ ns = ns' ∧ name = name' := by
  unfold ObjectKey.of ObjectKey.ofType
  constructor
  · intro h
    obtain ⟨hversion, hkind, hns, hname⟩ := ObjectKey.mk.inj h
    have htype : ∀ a b : ObjectType, a.apiVersion = b.apiVersion → a.kind = b.kind → a = b := by
      rintro ⟨_, _⟩ ⟨_, _⟩ rfl rfl
      rfl
    exact ⟨htype _ _ hversion hkind, hns, hname⟩
  · rintro ⟨htype, rfl, rfl⟩
    rw [htype]

namespace Access

variable {α β : Type} {objects : Dict ObjectKey Json} {s s' : Server}

/-! ## Quiet computations

To be quiet is a property of a computation and of what is stored, and it is asked of
all clusters that store this and refuse nothing. It includes that the computation
comes to its answer; one that fails without writing anything is not quiet but stuck. -/

/-- **A computation that is quiet about what is stored**: where nothing is
refused it comes to its answer and writes nothing. -/
def Quiet (objects : Dict ObjectKey Json) (act : Access α) (a : α) : Prop :=
  ∀ s : Server, s.Open → s.objects = objects →
    ∃ s', act.on s = (.ok a, s') ∧ s'.Open ∧ s'.objects = objects ∧ s'.writes = s.writes

theorem quiet_pure (a : α) : Quiet objects (pure a) a := fun s hopen ho =>
  ⟨s, rfl, hopen, ho, rfl⟩

theorem Quiet.bind {first : Access α} {next : α → Access β} {a : α} {b : β}
    (h : Quiet objects first a) (hnext : Quiet objects (next a) b) :
    Quiet objects (first >>= next) b := by
  intro s hopen ho
  obtain ⟨t, ht, htopen, hto, htw⟩ := h s hopen ho
  obtain ⟨s', hs', hopen', ho', hw'⟩ := hnext t htopen hto
  exact ⟨s', on_bind_ok.2 ⟨a, t, ht, hs'⟩, hopen', ho', hw'.trans htw⟩

theorem Quiet.discard {act : Access α} {a : α} (h : Quiet objects act a) :
    Quiet objects (discard act) () := by
  rw [discard_eq]
  exact h.bind (quiet_pure ())

/-- What only reads is quiet if it comes to an answer. -/
theorem Reads.quiet {act : Access α} (h : Reads act) {a : α}
    (ha : ∀ s : Server, s.Open → s.objects = objects → (act.on s).1 = .ok a) :
    Quiet objects act a := fun s hopen ho =>
  ⟨(act.on s).2, Prod.ext (ha s hopen ho) rfl, fun n c => (on_refuse act s).symm ▸ hopen n c,
    (h.objects_eq s).trans ho, h.writes_eq s⟩

/-! ## Computations that settle

The definition looks ahead. After a computation has succeeded other things may happen,
and it is quiet then, if none of them has changed what it depends on. With this in the
definition settling composes; without it, one could only say that a computation is
quiet if it is made twice in a row. -/

/-- **A computation that settles**: it writes under some keys, and once it
has succeeded it is quiet as long as what it depends on stays as it is. -/
structure Settles (writes depends : ObjectKey → Prop) (act : Access α) : Prop where
  /-- It writes under these keys only. -/
  touches : Touches writes act
  /-- It is quiet from then on. -/
  quiet : ∀ s s' a, s.Truthful → act.on s = (.ok a, s') → ∀ objects : Dict ObjectKey Json,
    (∀ k, depends k → objects.get? k = s'.objects.get? k) → Quiet objects act a

variable {W V D E : ObjectKey → Prop}

theorem Settles.mono {act : Access α} (h : Settles W D act) (hW : ∀ k, W k → V k)
    (hD : ∀ k, D k → E k) : Settles V E act where
  touches := h.touches.mono hW
  quiet s s' a ht hs objects agree := h.quiet s s' a ht hs objects fun k hk => agree k (hD k hk)

theorem settles_pure (a : α) : Settles W D (pure a : Access α) where
  touches := touches_pure a
  quiet s s' b _ h objects _ := by
    obtain rfl := Except.ok.inj (Prod.mk.inj h).1
    exact quiet_pure _

theorem settles_throw (e : OperatorError) : Settles W D (throw e : Access α) where
  touches := touches_throw e
  quiet s s' a _ h := by simp at h

/-- **One computation after another settles** if the second writes nothing
that the first depends on. -/
theorem Settles.bind {first : Access α} {next : α → Access β} (h : Settles W D first)
    (hnext : ∀ a, Settles V E (next a)) (apart : ∀ k, D k → ¬ V k) :
    Settles (fun k => W k ∨ V k) (fun k => D k ∨ E k) (first >>= next) where
  touches := .bind (h.touches.mono fun _ => .inl) fun a => (hnext a).touches.mono fun _ => .inr
  quiet s s'' b ht hs objects agree := by
    obtain ⟨a, s', hfirst, hsecond⟩ := on_bind_ok.1 hs
    refine (h.quiet s s' a ht hfirst objects fun k hk => ?_).bind
      ((hnext a).quiet s' s'' b (truthful_of_on ht hfirst) hsecond objects
        fun k hk => agree k (.inr hk))
    rw [agree k (.inl hk), (hnext a).touches.get?_of_on hsecond (apart k hk)]

theorem Settles.ite {c : Prop} [Decidable c] {a b : Access α} (ha : Settles W D a)
    (hb : Settles W D b) : Settles W D (if c then a else b) := by
  split
  · exact ha
  · exact hb

/-! ## The operations

Each operation settles for a reason of its own. A write has left the child that the
next one would write; a removal has left nothing, or something that the application
does not control; giving up has left owners without the application among them. In all
three the key that is written is all that is read, so these are the best cases of the
definition. -/

section Operations

variable {α : Type} [ApiObject α] {app : Application} {ns name : String}

/-- **Looking up settles**: what is there is there. -/
theorem settles_lookUp : Settles (fun _ => False) (· = .of α ns name) (lookUp α ns name) where
  touches := Reads.lookUp α ns name
  quiet s s' r ht h objects agree := by
    refine (Reads.lookUp α ns name).quiet fun t hopen hto => ?_
    have hsame : t.objects.get? (.of α ns name) = s.objects.get? (.of α ns name) := by
      rw [hto, agree _ rfl, (Reads.lookUp α ns name).objects_of_on h]
    refine congrArg Prod.fst (lookUp_on_open hopen (r := r) ?_)
    rw [hsame]
    rcases lookUp_ok h with ⟨j, a, rfl, hj, hd⟩ | ⟨rfl, hnone⟩
    · rw [hj, Option.map_some, hd]
      rfl
    · rw [hnone ht]
      rfl

/-- A child that is as it should be is not written. -/
theorem quiet_write {controls : Bool} {update : α → α} {child : α}
    (hns : app.ns = .ok app.metadata.nsOrEmpty)
    (hshows : Shows objects α app.metadata.nsOrEmpty name (some child))
    (hdesired : desired app controls app.metadata.nsOrEmpty name update (some child) = .ok child) :
    Quiet objects (write app controls name update) .unchanged := by
  intro s hopen ho
  refine ⟨s.after (.get (.of α app.metadata.nsOrEmpty name)), ?_, hopen.after _, ?_,
    Server.after_writes_of_read rfl⟩
  · refine on_bind_ok.2 ⟨_, s, on_lift_ok.2 ⟨hns, rfl⟩, ?_⟩
    refine on_bind_ok.2 ⟨_, _, find_on_open hopen (ho ▸ hshows), ?_⟩
    refine on_bind_ok.2 ⟨child, _, on_lift_ok.2 ⟨hdesired, rfl⟩, ?_⟩
    show (if encode child = encode child then pure .unchanged else _ : Access Outcome).on _ = _
    rw [if_pos rfl]
    rfl
  · rw [Server.after_objects_get, ho]

/-- **Writing a child settles.** -/
theorem settles_write [Legible α] {controls : Bool} {update : α → α} (hu : Steady update) :
    Settles (· = .of α app.metadata.nsOrEmpty name) (· = .of α app.metadata.nsOrEmpty name)
      (discard (write app controls name update)) where
  touches := (touches_write hu.keeps).discard
  quiet s s' _ _ h objects agree := by
    obtain ⟨outcome, hwrite⟩ := on_discard_ok.1 h
    obtain ⟨existing, child, -, hdesired, hshows⟩ := write_ok hu.keeps hwrite
    exact (quiet_write (ns_of_on hwrite) (hshows.congr (agree _ rfl))
      (desired_desired hu hdesired)).discard

/-- What the application does not control is not removed. -/
theorem quiet_deleteOwn {existing : Option α} (hns : app.ns = .ok app.metadata.nsOrEmpty)
    (hshows : Shows objects α app.metadata.nsOrEmpty name existing)
    (hother : ∀ child ∈ existing, (metadata child).isControlledBy app = false) :
    Quiet objects (deleteOwn α app name) false := by
  intro s hopen ho
  refine ⟨s.after (.get (.of α app.metadata.nsOrEmpty name)), ?_, hopen.after _, ?_,
    Server.after_writes_of_read rfl⟩
  · refine on_bind_ok.2 ⟨_, s, on_lift_ok.2 ⟨hns, rfl⟩, ?_⟩
    refine on_bind_ok.2 ⟨_, _, find_on_open hopen (ho ▸ hshows), ?_⟩
    cases existing with
    | none => rfl
    | some child =>
      show (if (metadata child).isControlledBy app then delete _ else pure false :
        Access Bool).on _ = _
      rw [if_neg (by simp [hother child rfl])]
      rfl
  · rw [Server.after_objects_get, ho]

/-- **Removing a child settles.** -/
theorem settles_deleteOwn :
    Settles (· = .of α app.metadata.nsOrEmpty name) (· = .of α app.metadata.nsOrEmpty name)
      (discard (deleteOwn α app name)) where
  touches := touches_deleteOwn.discard
  quiet s s' _ ht h objects agree := by
    obtain ⟨removed, hdelete⟩ := on_discard_ok.1 h
    obtain ⟨existing, -, hshows⟩ := deleteOwn_ok ht hdelete
    refine (quiet_deleteOwn (ns_of_on hdelete) (hshows.congr (agree _ rfl))
      fun child hchild => ?_).discard
    simpa using (Option.filter_eq_some_iff.1 hchild).2

/-- What the application is no owner of is not given up. -/
theorem quiet_release {existing : Option α} (hns : app.ns = .ok app.metadata.nsOrEmpty)
    (hshows : Shows objects α app.metadata.nsOrEmpty name existing)
    (hother : ∀ uid ∈ app.metadata.uid, ∀ child ∈ existing, ¬ (metadata child).OwnedBy uid) :
    Quiet objects (release α app name) false := by
  intro s hopen ho
  refine ⟨s.after (.get (.of α app.metadata.nsOrEmpty name)), ?_, hopen.after _, ?_,
    Server.after_writes_of_read rfl⟩
  · refine on_bind_ok.2 ⟨_, s, on_lift_ok.2 ⟨hns, rfl⟩, ?_⟩
    refine on_bind_ok.2 ⟨_, _, find_on_open hopen (ho ▸ hshows), ?_⟩
    cases existing with
    | none => rfl
    | some child =>
      cases huid : app.metadata.uid with
      | none => rfl
      | some uid =>
        have hall : ((metadata child).owners.filter (·.uid ≠ uid)).length
            = (metadata child).owners.length := by
          refine List.length_filter_eq_length_iff.2 fun r hr => decide_eq_true fun he => ?_
          exact hother uid huid child rfl ⟨r, hr, he⟩
        show (if ((metadata child).owners.filter (·.uid ≠ uid)).length
            = (metadata child).owners.length then pure false else _ : Access Bool).on _ = _
        rw [if_pos hall]
        rfl
  · rw [Server.after_objects_get, ho]

/-- **Giving up a child settles.** -/
theorem settles_release [Legible α] :
    Settles (· = .of α app.metadata.nsOrEmpty name) (· = .of α app.metadata.nsOrEmpty name)
      (discard (release α app name)) where
  touches := touches_release.discard
  quiet s s' _ ht h objects agree := by
    obtain ⟨removed, hrelease⟩ := on_discard_ok.1 h
    have hns := ns_of_on hrelease
    cases huid : app.metadata.uid with
    | some uid =>
      obtain ⟨existing, -, hshows⟩ := release_ok ht huid hrelease
      refine (quiet_release hns (hshows.congr (agree _ rfl)) fun uid' he left hleft => ?_).discard
      rw [huid] at he
      obtain rfl := Option.some.inj he
      obtain ⟨child, -, hgiven⟩ := Option.bind_eq_some_iff.1 hleft
      exact not_ownedBy_of_givenUp hgiven
    | none =>
      -- without an identity the application gives up nothing
      obtain ⟨existing, -, hshows, hrest⟩ := onStored_ok hrelease
      have hstays : s' = s.after (.get (.of α app.metadata.nsOrEmpty name)) := by
        rw [huid] at hrest
        cases existing with
        | none => exact (Prod.mk.inj hrest).2.symm
        | some _ => exact (Prod.mk.inj hrest).2.symm
      refine (quiet_release hns ((hshows ht).congr ?_) fun uid he => by simp [huid] at he).discard
      rw [agree _ rfl, hstays, Server.after_objects_get]

end Operations

/-! ## Steps in order

A pass is mostly a list of steps, each under a key of its own. For such a list the
conditions of composition come down to the keys being different, and to no step
writing what is read besides, and they can be checked by looking at the list. -/

/-- A step under the key that it writes. -/
abbrev Task : Type := ObjectKey × Access Unit

/-- **Steps taken one after the other.** -/
def inOrder : List Task → Access Unit
  | [] => pure ()
  | [task] => task.2
  | task :: rest => task.2 >>= fun _ => inOrder rest

theorem inOrder_cons (task : Task) (rest : List Task) :
    inOrder (task :: rest) = task.2 >>= fun _ => inOrder rest := by
  cases rest with
  | nil => exact (bind_pure task.2).symm
  | cons _ _ => rfl

theorem inOrder_append (before after : List Task) :
    inOrder (before ++ after) = inOrder before >>= fun _ => inOrder after := by
  induction before with
  | nil => exact (pure_bind () fun _ => inOrder after).symm
  | cons task rest ih => rw [List.cons_append, inOrder_cons, inOrder_cons, ih, bind_assoc]

/-- What is admissible of each step is admissible of all. -/
theorem along_inOrder {P : Server → Call → Prop} : ∀ {tasks : List Task},
    (∀ task ∈ tasks, ∀ s, task.2.Along P s) → ∀ s, (inOrder tasks).Along P s
  | [], _, _ => along_pure _
  | [task], h, s => h task (List.mem_singleton.2 rfl) s
  | task :: _ :: _, h, s =>
    along_bind (h task (List.mem_cons_self ..) s) fun _ t _ =>
      along_inOrder (fun task' ht => h task' (List.mem_cons_of_mem _ ht)) t

/-- Steps write under their keys. -/
theorem touches_inOrder {tasks : List Task}
    (h : ∀ task ∈ tasks, Touches (· = task.1) task.2) :
    Touches (· ∈ tasks.map Prod.fst) (inOrder tasks) :=
  along_inOrder fun task htask => (h task htask).mono fun _ hk =>
    hk ▸ List.mem_map_of_mem htask

/-- **Steps under different keys settle together** if each does, and what
they read besides is written by none of them. -/
theorem settles_inOrder {R : ObjectKey → Prop} : ∀ tasks : List Task,
    (∀ task ∈ tasks, Settles (· = task.1) (fun k => k = task.1 ∨ R k) task.2) →
    (tasks.map Prod.fst).Nodup → (∀ task ∈ tasks, ¬ R task.1) →
    Settles (· ∈ tasks.map Prod.fst) (fun k => k ∈ tasks.map Prod.fst ∨ R k) (inOrder tasks)
  | [], _, _, _ => settles_pure ()
  | [task], h, _, _ => by
    refine (h task (List.mem_singleton.2 rfl)).mono (fun k hk => ?_) fun k hk => hk.imp_left ?_
    · simpa using hk
    · intro hk
      simpa using hk
  | task :: next :: rest, h, hnodup, hapart => by
    have hnodup' := List.nodup_cons.1 hnodup
    have hrest := settles_inOrder (next :: rest) (fun t ht => h t (List.mem_cons_of_mem _ ht))
      hnodup'.2 fun t ht => hapart t (List.mem_cons_of_mem _ ht)
    -- the later steps write neither under this key nor what is read besides
    refine ((h task (List.mem_cons_self ..)).bind (fun _ => hrest) fun k hk hk' => ?_).mono
      (fun k hk => ?_) fun k hk => ?_
    · rcases hk with rfl | hR
      · exact hnodup'.1 hk'
      · obtain ⟨t, ht, rfl⟩ := List.mem_map.1 hk'
        exact hapart t (List.mem_cons_of_mem _ ht) hR
    · exact List.mem_cons.2 hk
    · rcases hk with (hk | hR) | (hk | hR)
      · exact .inl (List.mem_cons.2 (.inl hk))
      · exact .inr hR
      · exact .inl (List.mem_cons.2 (.inr hk))
      · exact .inr hR

end Access
end AppOperator
