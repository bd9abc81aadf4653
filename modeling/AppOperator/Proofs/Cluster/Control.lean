import AppOperator.Proofs.Cluster.Settling

/-!
# What an application controls

Only the references to its owners say whose an object is, and these stand in
the metadata, which every type of objects has. So it can be told of what is
stored under a key whether the application controls it, without a word about
its type (`Application.controls`).

A child that was written is controlled by the application, and one that was
removed is not, whatever was stored before and however it came to be there.
In between, a call that neither removes what is stored under a key nor
stores anything else there than what the application controls (`Call.Spares`)
leaves the application in control of it.

To control is more than to own: a child that is the application's alone is removed
only if the application controls it, and nothing is written over what another
controls. So statements about who may do what to a child are statements about control,
by key, and not about the children themselves.
-/

namespace AppOperator

/-- Whether an application controls a stored object. -/
def Json.isControlledBy (j : Json) (app : Application) : Bool :=
  j.metadata?.any (·.isControlledBy app)

/-- **Whether an application controls what is stored under a key.** -/
def Application.controls (app : Application) (objects : Dict ObjectKey Json) (key : ObjectKey) :
    Bool :=
  (objects.get? key).any (·.isControlledBy app)

namespace Application

variable {app : Application} {objects objects' : Dict ObjectKey Json} {key : ObjectKey}

theorem controls_congr (h : objects'.get? key = objects.get? key) :
    app.controls objects' key = app.controls objects key := by
  unfold controls
  rw [h]

theorem controls_insert (objects : Dict ObjectKey Json) (key : ObjectKey) (j : Json) :
    app.controls (objects.insert key j) key = j.isControlledBy app := by
  unfold controls
  rw [Dict.get?_insert_self]
  rfl

end Application

/-! ## Children

A type that is legible has its metadata where metadata are looked for, in what is
written and in what is read. So to control the stored JSON and to control the child
that is read from it are the same, and the laws of the operations carry over to keys. -/

namespace Access

variable {α : Type} [ApiObject α] [Legible α] {app : Application} {ns name : String}
  {objects : Dict ObjectKey Json} {s s' : Server} {update : α → α}

@[simp] theorem isControlledBy_encode (a : α) :
    (encode a).isControlledBy app = (metadata a).isControlledBy app := by
  unfold Json.isControlledBy
  rw [metadata?_of_read? (read?_encode a)]
  rfl

/-- Who controls a child that is shown can be told by its metadata. -/
theorem controls_of_shows {existing : Option α} (h : Shows objects α ns name existing) :
    app.controls objects (.of α ns name)
      = existing.any fun child => (metadata child).isControlledBy app := by
  unfold Application.controls
  cases existing with
  | none =>
    rw [shows_none.1 h]
    rfl
  | some child =>
    obtain ⟨j, hj, hread⟩ := shows_some.1 h
    rw [hj, Option.any_some, Option.any_some, Json.isControlledBy, metadata?_of_read? hread]
    rfl

/-- **A child that was written is controlled by the application.** -/
theorem controls_of_writeOwn (hu : Steady update) {outcome : Outcome}
    (h : (writeOwn app name update).on s = (.ok outcome, s')) :
    app.controls s'.objects (.of α app.metadata.nsOrEmpty name) = true := by
  obtain ⟨_, child, -, hdesired, hshows⟩ := write_ok hu.keeps h
  rw [controls_of_shows hshows]
  exact isControlledBy_of_desired hu.keeps hdesired

/-- **A child that was removed is not**: what is left there is someone else's. -/
theorem controls_of_deleteOwn (ht : s.Truthful) {removed : Bool}
    (h : (deleteOwn α app name).on s = (.ok removed, s')) :
    app.controls s'.objects (.of α app.metadata.nsOrEmpty name) = false := by
  obtain ⟨existing, -, hshows⟩ := deleteOwn_ok ht h
  rw [controls_of_shows hshows]
  cases existing with
  | none => rfl
  | some child =>
    rw [Option.filter_some]
    cases hcontrols : (metadata child).isControlledBy app with
    | true => rfl
    | false => exact hcontrols

end Access

/-! ## Staying in control

The law is put in terms of calls because it is about every moment of a run: not only
after a pass but after each of its calls, including those before it was cut off. A
write of the same child is among the calls that leave the application in control,
since what it writes bears the application as its controller. -/

/-- **A call that leaves an application in control of what is stored under a
key**: it does not remove it, and stores there only what the application
controls. -/
def Call.Spares (app : Application) (key : ObjectKey) : Call → Prop
  | .get _ => True
  | .discover _ => True
  | .create at_ j => at_ = key → j.isControlledBy app = true
  | .replace at_ j => at_ = key → j.isControlledBy app = true
  | .delete at_ => at_ ≠ key
  | .patchStatus at_ _ => at_ ≠ key

namespace Call

variable {app : Application} {key : ObjectKey}

/-- A call that writes elsewhere leaves the application in control. -/
theorem Within.spares {K : ObjectKey → Prop} {c : Call} (h : c.Within K) (hkey : ¬ K key) :
    c.Spares app key := by
  have helsewhere : ∀ k, c.isWrite = true → c.key? = some k → k ≠ key := by
    rintro k hw hk rfl
    exact hkey (h hw k hk)
  cases c with
  | get _ => trivial
  | discover _ => trivial
  | create at_ _ => exact fun hat => absurd hat (helsewhere at_ rfl rfl)
  | replace at_ _ => exact fun hat => absurd hat (helsewhere at_ rfl rfl)
  | delete at_ => exact helsewhere at_ rfl rfl
  | patchStatus at_ _ => exact helsewhere at_ rfl rfl

/-- **What the application controls it controls still** after such a call,
whether it was accepted or refused. -/
theorem Spares.controls_after {s : Server} {c : Call} (h : c.Spares app key)
    (hcontrols : app.controls s.objects key = true) :
    app.controls (s.after c).objects key = true := by
  -- storing an object keeps control of it if the object says so, and of every other anyway
  have hstored : ∀ at_ j, (at_ = key → j.isControlledBy app = true) →
      app.controls (s.objects.insert at_ j) key = true := by
    intro at_ j hj
    by_cases hat : at_ = key
    · subst hat
      rw [Application.controls_insert]
      exact hj rfl
    · rw [Application.controls_congr, hcontrols]
      rw [Dict.get?_insert, if_neg (Ne.symm hat)]
  rcases s.perform_cases c with ⟨_, -, ho⟩ | ⟨_, -, -, ho⟩
  · rw [ho, hcontrols]
  · rw [ho]
    cases c with
    | get _ => exact hcontrols
    | discover _ => exact hcontrols
    | create at_ j => exact hstored at_ j h
    | replace at_ j => exact hstored at_ j h
    | delete at_ =>
      have hne : key ≠ at_ := Ne.symm h
      rw [Call.apply, Application.controls_congr, hcontrols]
      rw [Dict.get?_erase, if_neg hne]
    | patchStatus at_ _ =>
      have hne : key ≠ at_ := Ne.symm h
      rw [Call.apply, Application.controls_congr, hcontrols]
      rw [Dict.get?_insert, if_neg hne]

end Call

namespace Access

variable {app : Application} {s : Server} {key : ObjectKey}

/-- **Writing a child takes no child from the application**, not even the
one that is written. -/
theorem spares_writeOwn {α : Type} [ApiObject α] [Legible α] {name : String} {update : α → α}
    (hu : Steady update) : (writeOwn app name update).Along (fun _ c => c.Spares app key) s := by
  refine along_write hu.keeps trivial (fun child hchild _ => ?_) fun _ child _ hchild _ => ?_
  · rw [isControlledBy_encode]
    exact isControlledBy_of_desired hu.keeps hchild
  · rw [isControlledBy_encode]
    exact isControlledBy_of_desired hu.keeps hchild

end Access

/-- **What the application controls it controls all along a run** whose calls
leave it in control. -/
theorem Dialogue.Along.controls {β : Type} {d : Dialogue β} {app : Application} {s : Server}
    {key : ObjectKey} (h : d.Along (fun _ c => c.Spares app key) s)
    (hcontrols : app.controls s.objects key = true) :
    app.controls (d.on s).2.objects key = true
      ∧ d.Along (fun s c => app.controls (s.after c).objects key = true) s := by
  obtain ⟨hafter, halong⟩ := h.invariant (I := fun t => app.controls t.objects key = true)
    hcontrols fun _ _ hc => hc.controls_after
  exact ⟨hafter, halong.mono fun _ _ hc => hc.2.2⟩

end AppOperator
