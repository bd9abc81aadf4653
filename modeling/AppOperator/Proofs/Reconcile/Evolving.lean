import AppOperator.Proofs.Reconcile.Walk

/-!
# Children that evolve

What is set in a child depends on what was stored of it, so a law about the
child of a name is often one about its history: something holds of it in all
that is ever stored under its key (`Access.ShowsOnly`), and each replacement
has to do with what it replaces. A call that respects both `Access.Evolves`, and
for an operation on the child that is known from what the application sets,
once for a child that is new and once for one that was stored. Operations on
other children do not touch it.

The relation is left open: that what cannot be changed stays the same, that a list
only grows, that an object keeps its owners are all of this kind. What has to be shown
of an update is one implication, from what held of the child that was found to what
holds of the child that is made, with the relation between the two; it is asked for
where the update is about the child of that name and nowhere else.
-/

namespace AppOperator

namespace Access

section Shown

variable {α : Type} [ApiObject α] {G : α → Prop} {R : α → α → Prop} {ns name : String}
  {objects objects' : Dict ObjectKey Json} {s : Server} {c : Call} {child : α}

/-- **What holds of the child of a name**, if one is stored that can be read. -/
def ShowsOnly (objects : Dict ObjectKey Json) (ns name : String) (G : α → Prop) : Prop :=
  ∀ a, Shows objects α ns name (some a) → G a

theorem ShowsOnly.congr (h : ShowsOnly objects ns name G)
    (heq : objects'.get? (.of α ns name) = objects.get? (.of α ns name)) :
    ShowsOnly objects' ns name G :=
  fun a ha => h a (ha.congr heq.symm)

/-- It holds where no child is stored. -/
theorem showsOnly_of_none (h : objects.get? (.of α ns name) = none) :
    ShowsOnly objects ns name G := by
  intro a ha
  obtain ⟨j, hj, -⟩ := shows_some.1 ha
  rw [h] at hj
  simp at hj

/-- **A call that respects the history of a child**: what holds of it goes on
to hold, and if the call replaces it, it does so by one that is related to it. -/
structure Evolves (G : α → Prop) (R : α → α → Prop) (ns name : String) (s : Server) (c : Call) :
    Prop where
  /-- What holds goes on to hold. -/
  holds : ShowsOnly s.objects ns name G → ShowsOnly (s.after c).objects ns name G
  /-- What is stored in its place has to do with it. -/
  replaces : ShowsOnly s.objects ns name G → ∀ object, c = .replace (.of α ns name) object →
    ∃ old new, Shows s.objects α ns name (some old) ∧ read? α object = some new ∧ R old new
  /-- It is not patched. -/
  unpatched : ∀ patch, c ≠ .patchStatus (.of α ns name) patch

/-- So do all calls that do not write under its key. -/
theorem Evolves.of_within {K : ObjectKey → Prop} (hc : c.Within K) (hk : ¬ K (.of α ns name)) :
    Evolves G R ns name s c where
  holds h := h.congr (Server.after_get?_of_ne fun hw hkey => hk (hc hw _ hkey))
  replaces _ object heq := by
    subst heq
    exact absurd (hc rfl _ rfl) hk
  unpatched patch heq := by
    subst heq
    exact absurd (hc rfl _ rfl) hk

theorem Evolves.of_read (h : c.isWrite = false) : Evolves G R ns name s c :=
  .of_within (K := fun _ => False) (fun hw => absurd hw (by simp [h])) id

/-- A child that is removed is not there to say anything of. -/
theorem Evolves.delete {key : ObjectKey} : Evolves G R ns name s (.delete key) where
  holds h := by
    rcases s.perform_cases (.delete key) with ⟨r, -, ho⟩ | ⟨-, -, -, ho⟩
    · rw [ho]
      exact h
    · rw [ho, Call.apply]
      by_cases hkey : ObjectKey.of α ns name = key
      · exact showsOnly_of_none (by rw [Dict.get?_erase, if_pos hkey])
      · exact h.congr (by rw [Dict.get?_erase, if_neg hkey])
  replaces _ _ heq := by simp at heq
  unpatched _ heq := by simp at heq

/-- **What holds of a child that is stored**, new or in the place of another,
holds of the child of the name. -/
theorem ShowsOnly.after_store [Legible α]
    (hc : c.apply s.objects = s.objects.insert (.of α ns name) (encode child))
    (h : ShowsOnly s.objects ns name G) (hchild : G child) :
    ShowsOnly (s.after c).objects ns name G := by
  rcases s.perform_cases c with ⟨r, -, ho⟩ | ⟨-, -, -, ho⟩
  · rw [ho]
    exact h
  · rw [ho, hc]
    intro a ha
    obtain rfl := Option.some.inj (ha.unique (shows_insert _ _ _ _))
    exact hchild

end Shown

section Operations

variable {α : Type} [ApiObject α] [Legible α] {G : α → Prop} {R : α → α → Prop}
  {ns name other : String} {s : Server} {app : Application} {controls : Bool} {update : α → α}

/-- **Writing a child** respects its history if what the application sets in
a new one, or in one of which it held before, does. -/
theorem evolves_write (hu : Steady update)
    (h : app.metadata.nsOrEmpty = ns → other = name → ∀ existing child,
      (∀ a ∈ existing, G a) → desired app controls ns name update existing = .ok child →
      G child ∧ ∀ a ∈ existing, R a child) :
    (write app controls other update).Along (Evolves G R ns name) s := by
  by_cases hkey : app.metadata.nsOrEmpty = ns ∧ other = name
  · obtain ⟨rfl, rfl⟩ := hkey
    -- the read changes nothing, so what is known of the child at the read holds at the write
    refine along_write hu.keeps (.of_read rfl) (fun child hchild => ?_)
      fun current child hcurrent hchild => ?_
    · obtain ⟨hG, -⟩ := h rfl rfl none child (fun _ ha => by simp at ha) hchild
      exact ⟨fun hholds => hholds.after_store rfl hG, fun _ _ heq => by simp at heq,
        fun _ heq => by simp at heq⟩
    · have hstored : ∀ {v : Server}, v.objects = s.objects →
          Shows v.objects α app.metadata.nsOrEmpty other (some current) :=
        fun heq => hcurrent.congr (by rw [heq])
      have hcurrent' := hstored (Server.after_objects_get s (.of α app.metadata.nsOrEmpty other))
      have hnext : ShowsOnly (s.after (.get (.of α app.metadata.nsOrEmpty other))).objects
          app.metadata.nsOrEmpty other G → G child ∧ R current child := fun hholds => by
        obtain ⟨hG, hR⟩ := h rfl rfl (some current) child
          (fun a ha => Option.some.inj ha ▸ hholds current hcurrent') hchild
        exact ⟨hG, hR current rfl⟩
      refine ⟨fun hholds => hholds.after_store rfl (hnext hholds).1, fun hholds object heq => ?_,
        fun _ heq => by simp at heq⟩
      obtain ⟨-, rfl⟩ := Call.replace.inj heq
      exact ⟨current, child, hcurrent', read?_encode child, (hnext hholds).2⟩
  · exact Dialogue.Along.mono (touches_write hu.keeps s) fun _ _ hc =>
      .of_within hc fun hk =>
      hkey ((ObjectKey.of_eq_iff.1 hk).2.imp Eq.symm Eq.symm)

omit [Legible α] in
/-- Removing any child respects its history. -/
theorem evolves_deleteOwn {β : Type} [ApiObject β] [Legible β] :
    (deleteOwn β app other).Along (Evolves G R ns name) s :=
  along_deleteOwn (.of_read rfl) fun _ _ _ => .delete

end Operations

/-- **Operations on children of other types** respect the history of a child. -/
theorem admits_evolves {α : Type} [ApiObject α] (G : α → Prop) (R : α → α → Prop)
    (ns name : String) (app : Application) :
    Admits app (fun type _ => type ≠ objectType (α := α)) (Evolves G R ns name) :=
  (admits_within app _).mono fun _ _ hc => .of_within hc <| by
    rintro ⟨⟨_, _⟩, _, hne, hkey⟩
    cases hkey
    exact hne rfl

end Access
end AppOperator
