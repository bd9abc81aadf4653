import AppOperator.Proofs.Child.Steady

/-!
# Labels of children

A child is marked with the labels of its application on top of those that it
bears already, so what stands in a label is what the application gives, or
else what was there before (`Application.label?_mark`). Nothing is taken away
but the two labels that depend on how the application is reached.

Three of the labels say something of the specification and are given only
where there is something to say (`SpecLabel`). They are not taken away either
when the specification has nothing to say any more.

The equation for a mark is all that the later modules use: with it, what a label is
after a pass is a matter of what it was before and of what the application says, for
any child and at any time. In particular it shows where a label comes from that no
specification asks for any more.
-/

namespace AppOperator

/-! ## The value of a label

Labels are compared key by key. The edits of metadata that occur are few, and each has
an equation for the value of a key after it, in terms of the value before: these are
what `simp` goes by, so that no proof about the labels of a child unfolds how it is
marked. Pods have labels in three places, according to what runs them, and each place
has a name. -/

/-- The labels of an object, none when unset. -/
def ObjectMeta.labelsOrEmpty (m : ObjectMeta) : Labels := m.labels.getD .empty

/-- The labels of the pods that a template stamps. -/
def PodTemplate.labels (t : PodTemplate) : Labels := (t.metadata.getD default).labelsOrEmpty

/-- The metadata of the pods of a deployment. -/
def Deployment.pods (d : Deployment) : ObjectMeta :=
  (d.spec.getD default).template.metadata.getD default

/-- The metadata of the pods of a stateful set. -/
def StatefulSet.pods (s : StatefulSet) : ObjectMeta :=
  (s.spec.getD default).template.metadata.getD default

/-- The metadata of the revisions of a Knative service, and so of their pods. -/
def KnativeService.revisions (s : KnativeService) : ObjectMeta :=
  (s.spec.template.getD default).metadata.getD default

namespace ObjectMeta

/-- The value of a label. -/
def label? (m : ObjectMeta) (key : String) : Option String := m.labelsOrEmpty.get? key

variable (m : ObjectMeta) (key : String)

@[simp] theorem label?_blank : (blank ObjectMeta).label? key = none := rfl

@[simp] theorem label?_addLabels (labels : Labels) :
    (m.addLabels labels).label? key = (labels.get? key).or (m.label? key) :=
  Dict.get?_extend _ _ _

@[simp] theorem label?_addAnnotations (annotations : Labels) :
    (m.addAnnotations annotations).label? key = m.label? key := by
  unfold addAnnotations
  split
  · rfl
  · rfl

end ObjectMeta

namespace Application

variable (app : Application) (m : ObjectMeta) {key : String}

/-- **A mark adds the application's labels** to those that are there. -/
@[simp] theorem label?_mark (key : String) :
    (app.mark m).label? key = (app.labels.get? key).or (m.label? key) := by
  rw [mark, ObjectMeta.label?_addAnnotations, ObjectMeta.label?_addLabels]

/-- Marking a service as monitored, or not, is about one label. -/
theorem label?_markMonitored (h : key ≠ Label.monitored) :
    (app.markMonitored m).label? key = m.label? key := by
  unfold markMonitored
  dsimp only
  split
  · exact (Dict.get?_insert _ _ _ _).trans (if_neg h)
  · exact (Dict.get?_erase _ _ _).trans (if_neg h)

/-- Marking a service as visible, or not, is about one label. -/
theorem label?_markVisibility (h : key ≠ Label.visibility) :
    (app.markVisibility m).label? key = m.label? key := by
  unfold markVisibility
  dsimp only
  split
  · exact (Dict.get?_erase _ _ _).trans (if_neg h)
  · exact (Dict.get?_insert _ _ _ _).trans (if_neg h)

end Application

/-! ## Labels that say something of the specification

The three labels are told apart by a type of their own and not by their keys, so that
what is said of one of them is said of all. The value of a label is optional: the
application may have no version, no stack and no wish to be listed.

An application may itself bear labels, and those go to its children as well. Where the
specification has nothing to say, it is the application's own label of that key that
counts, if there is one; this is the second half of `SpecLabel.get?_labels`. -/

/-- **A label that says something of the specification.** -/
inductive SpecLabel where
  /-- Its version. -/
  | version
  /-- The stack that it was built from. -/
  | stack
  /-- That it is to be listed as an application. -/
  | listed
deriving DecidableEq

namespace SpecLabel

/-- The key of the label. -/
def key : SpecLabel → String
  | version => Label.version
  | stack => Label.stack
  | listed => Label.listed

/-- **What the label says of an application**, if there is anything to say. -/
def value (app : Application) : SpecLabel → Option String
  | version => app.spec.version
  | stack => if app.spec.stack.isEmpty then none else some app.spec.stack
  | listed => if app.spec.createAppDefinition.getD true then some "true" else none

theorem key_ne_monitored (l : SpecLabel) : l.key ≠ Label.monitored := by
  cases l <;> decide

theorem key_ne_visibility (l : SpecLabel) : l.key ≠ Label.visibility := by
  cases l <;> decide

theorem key_ne_managedBy (l : SpecLabel) : l.key ≠ Label.managedBy := by
  cases l <;> decide

/-- **The labels of an application say of it what there is to say**, and what
its own labels say else. -/
theorem get?_labels (l : SpecLabel) (app : Application) :
    app.labels.get? l.key = (l.value app).or (app.metadata.label? l.key) := by
  unfold Application.labels ObjectMeta.label? ObjectMeta.labelsOrEmpty
  cases l with
  | version =>
    rw [value]
    split <;> split <;> split <;> simp +decide [Dict.get?_insert, *]
  | stack =>
    rw [value]
    split <;> split <;> split <;> simp +decide [Dict.get?_insert, *]
  | listed =>
    rw [value]
    split <;> split <;> split <;> simp +decide [Dict.get?_insert, *]

end SpecLabel

end AppOperator
