import AppOperator.Layer.Admission
import Mathlib.Algebra.GroupWithZero.Nat

/-!
# Which specifications are admitted

The faults of a specification are found one by one, each where it can occur. Taken
together they come to a description of the specifications that have none
(`ApplicationSpec.InOrder`), by section and without an order of checks. The two are
the same (`ApplicationSpec.faults_eq_nil_iff`): each fault rules out what it is named
for, and nothing else is ruled out.

A refusal tells the faults in one text, from which they need not be told apart again. It
is enough for what follows that such a text tells how long the texts of the faults are
(`ApplicationSpec.lengthOfAll_of_validate`).

Order is defined by section and by what each section needs, in terms of the values
that are meant where some are unset: the fewest pods are one, the type of the service
is the one that has no ports of the nodes. So the definition can be read without the
code, and the equivalence with an empty list of faults is what connects the two.
-/

namespace AppOperator

/-- **Limits of autoscaling that leave room**: an upper limit by which some pod can
run, and which is not below the lower one. -/
def Autoscaling.HasRoom (a : Autoscaling) : Prop :=
  ∃ most, a.maxReplicas = some most ∧ 1 ≤ most ∧ a.least ≤ most

/-- Storage of some size or with a claim. -/
def Storage.IsSized (s : Storage) : Prop := s.size.isSome = true ∨ s.claimTemplate.isSome = true

/-- A service with a port of the nodes only if it is of a type that has one. -/
def ServiceSettings.HasFitPort (s : ServiceSettings) : Prop :=
  s.nodePort.isSome = true → (s.type.getD .clusterIP).allowsNodePort = true

/-- **A specification that is in order.** -/
structure ApplicationSpec.InOrder (spec : ApplicationSpec) : Prop where
  /-- There is an image. -/
  image : allBlank spec.applicationImage = false
  /-- Autoscaling has room. -/
  autoscaling : ∀ a ∈ spec.autoscaling, a.HasRoom
  /-- Storage has a size and is not asked for beside Knative. -/
  storage : ∀ s ∈ spec.storage, s.IsSized ∧ spec.createKnativeService.getD false = false
  /-- The service has a port that it can have, and uses what has a name. -/
  service : ∀ s ∈ spec.service,
    s.HasFitPort ∧ ∀ entry ∈ s.consumes.getD [], allBlank entry.name = false

theorem Autoscaling.faults_eq_nil_iff (a : Autoscaling) : a.faults = [] ↔ a.HasRoom := by
  unfold faults HasRoom
  cases a.maxReplicas with
  | none => simp
  | some most =>
    simp only [Option.some.injEq, exists_eq_left', ← Int32.not_lt]
    by_cases hone : most < 1
    · simp [hone]
    · simp [hone]

theorem Storage.faults_eq_nil_iff (s : Storage) (knative : Bool) :
    s.faults knative = [] ↔ s.IsSized ∧ knative = false := by
  unfold faults IsSized
  rw [List.append_eq_nil_iff]
  cases s.size <;> cases s.claimTemplate <;> cases knative <;> simp

theorem ServiceSettings.faults_eq_nil_iff (s : ServiceSettings) :
    s.faults = []
      ↔ s.HasFitPort ∧ ∀ entry ∈ s.consumes.getD [], allBlank entry.name = false := by
  unfold faults HasFitPort
  rw [List.append_eq_nil_iff]
  refine and_congr ?_ ?_
  · cases s.nodePort.isSome <;> cases (s.type.getD .clusterIP).allowsNodePort <;> simp
  · simp [List.filter_eq_nil_iff]

/-- The faults of a section that may be missing. -/
theorem faults_section_eq_nil_iff {σ : Type} (faults : σ → List Fault) (part : Option σ) :
    (part.map faults).getD [] = [] ↔ ∀ s ∈ part, faults s = [] := by
  cases part <;> simp

/-- **A specification is without faults exactly if it is in order.** -/
theorem ApplicationSpec.faults_eq_nil_iff (spec : ApplicationSpec) :
    spec.faults = [] ↔ spec.InOrder := by
  unfold faults
  simp only [List.append_eq_nil_iff, faults_section_eq_nil_iff, Autoscaling.faults_eq_nil_iff,
    Storage.faults_eq_nil_iff, ServiceSettings.faults_eq_nil_iff]
  constructor
  · rintro ⟨⟨⟨himage, hautoscaling⟩, hstorage⟩, hservice⟩
    exact ⟨by simpa using himage, hautoscaling, hstorage, hservice⟩
  · exact fun h => ⟨⟨⟨by simp [h.image], h.autoscaling⟩, h.storage⟩, h.service⟩

/-- A specification is admitted if it is without faults. -/
theorem ApplicationSpec.validate_eq_ok_iff (spec : ApplicationSpec) :
    spec.validate = .ok () ↔ spec.faults = [] := by
  unfold validate
  split
  · rename_i h
    simp [h]
  · rename_i h
    exact ⟨fun hok => by simp at hok, fun hnil => absurd hnil h⟩

/-! ## How faults are told

Two specifications may be refused in the same words although the lists of their faults
are different, as far as anything said here goes. What can be told from a message is
its length, and that is enough to tell two cases apart which differ in a single fault:
the faults around it are the same, so that the messages differ as the texts of the two
faults do. The alternative, to show that messages can be parsed, would take more than
it gives. -/

/-- Texts with a mark between each two are as long as they are with a mark after each,
but for the last. -/
theorem length_intercalate (mark : String) {texts : List String} (h : texts ≠ []) :
    (mark.intercalate texts).length + mark.length
      = (texts.map fun text => text.length + mark.length).sum := by
  induction texts with
  | nil => exact absurd rfl h
  | cons text rest ih =>
    cases rest with
    | nil => simp
    | cons next rest =>
      rw [List.map_cons, List.sum_cons, ← ih (List.cons_ne_nil _ _),
        String.intercalate_cons_cons, String.length_append, String.length_append, Nat.add_assoc]

/-- The length of the text of some faults, with a mark after each. -/
def Fault.lengthOfAll (faults : List Fault) : Nat :=
  (faults.map fun fault => fault.message.length + 2).sum

theorem Fault.lengthOfAll_append (faults others : List Fault) :
    lengthOfAll (faults ++ others) = lengthOfAll faults + lengthOfAll others := by
  unfold lengthOfAll
  rw [List.map_append, List.sum_append]

namespace ApplicationSpec

/-- **What a specification is refused for** tells how long the text of its faults is. -/
theorem lengthOfAll_of_validate {spec other : ApplicationSpec}
    (h : spec.validate = other.validate) :
    Fault.lengthOfAll spec.faults = Fault.lengthOfAll other.faults := by
  have hlength : ∀ faults : List Fault, faults ≠ [] → Fault.lengthOfAll faults
      = ("; ".intercalate (faults.map Fault.message)).length + "; ".length := by
    intro faults hne
    rw [length_intercalate "; " (by simpa using hne), List.map_map]
    rfl
  unfold validate at h
  cases hspec : spec.faults with
  | nil => cases hother : other.faults with
    | nil => rfl
    | cons _ _ => simp [hspec, hother] at h
  | cons fault rest => cases hother : other.faults with
    | nil => simp [hspec, hother] at h
    | cons fault' rest' =>
      rw [hspec, hother] at h
      simp only [Except.error.injEq, OperatorError.inadmissible.injEq] at h
      rw [hlength _ (List.cons_ne_nil _ _), h, hlength _ (List.cons_ne_nil _ _)]

/-- The faults of autoscaling stand between others, which do not depend on it. -/
theorem exists_faults_eq (spec : ApplicationSpec) : ∃ before after, ∀ scaling,
    ({ spec with autoscaling := scaling } : ApplicationSpec).faults
      = before ++ (scaling.map Autoscaling.faults).getD [] ++ after := by
  refine ⟨if allBlank spec.applicationImage then [.noImage] else [],
    (spec.storage.map (·.faults (spec.createKnativeService.getD false))).getD []
      ++ (spec.service.map ServiceSettings.faults).getD [], fun scaling => ?_⟩
  exact List.append_assoc ..

end ApplicationSpec

/-- Autoscaling with an upper limit has at most one fault, about that limit. -/
theorem Autoscaling.faults_of_limit {a : Autoscaling} {most : Int32}
    (h : a.maxReplicas = some most) :
    a.faults = [] ∨ a.faults = [.maxBelowOne] ∨ a.faults = [.maxBelowMin most a.least] := by
  unfold faults
  rw [h]
  dsimp only
  split
  · exact .inr (.inl rfl)
  · split
    · exact .inr (.inr rfl)
    · exact .inl rfl

/-- That the limits leave nothing between them is told at some length. -/
theorem Fault.length_maxBelowMin (most least : Int32) :
    54 ≤ (maxBelowMin most least).message.length := by
  have hbefore : "autoscaling.maxReplicas (".length = 25 := by decide +kernel
  have hbetween : ") is lower than minReplicas (".length = 29 := by decide +kernel
  unfold message
  rw [String.length_append, String.length_append, String.length_append, String.length_append,
    hbefore, hbetween]
  generalize (toString most.toInt).length = digits
  generalize (toString least.toInt).length = digits'
  generalize ")".length = mark
  omega

/-- What is wrong with an upper limit is told in other words than that there is none. -/
theorem Autoscaling.lengthOfAll_faults {a : Autoscaling} {most : Int32}
    (h : a.maxReplicas = some most) :
    Fault.lengthOfAll a.faults ≠ Fault.lengthOfAll [.noMaxReplicas] := by
  have hnone : Fault.lengthOfAll [.noMaxReplicas] = 37 := by decide +kernel
  rw [hnone]
  rcases faults_of_limit h with hfaults | hfaults | hfaults
  · rw [hfaults]
    decide +kernel
  · rw [hfaults]
    decide +kernel
  · have hlong := Fault.length_maxBelowMin most a.least
    rw [hfaults, Fault.lengthOfAll, List.map_singleton, List.sum_singleton]
    omega

end AppOperator
