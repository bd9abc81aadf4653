import AppOperator.Proofs.Layer.Admission
import AppOperator.Proofs.Layer.Keyed
import AppOperator.Proofs.Layer.Precedence

/-!
# Layers that are applied again

The effective specification of an application is a specification like any other, so
the layers can be put around it once more. Of most of it the same comes again: a field
has the value in force already, and that value stays in force
(`StackLayers.inForce_effective`); a list holds the constants already, and each of them
is put in its own place (`overlay_overlay`).

Autoscaling is the exception. Defaults only refine autoscaling that the application
asks for, and a specification does not tell who asked for it. Where the constants alone
do, a default for a limit that they leave open is withheld (`StackLayers.Withholds`).
The next time the application seems to have asked, and the default counts. So the
layers come to the same again exactly if no default was withheld. Otherwise the
autoscaling is refined, nothing else is changed, and it ends there
(`Application.normalized_again`).

Layers are applied again in fact if what was made is stored and taken for the
application itself. Then the difference is not only one of bookkeeping: an application
that was refused for its autoscaling would be accepted, or its pods would be scaled by
a target that they were not scaled by before. Constants that state both limits, or
defaults that state none, rule this out.
-/

namespace AppOperator

/-! ## Lists

A list is determined by the order of its keys and by the items of each key. Both stay
the same when constants are put in that were put in already: no key is new, and under
each key the last constant is there in front. Nothing is assumed of the list, in
particular not that its keys are different. -/

section Lists

variable {α κ : Type} [DecidableEq κ] {key : α → κ} {constants : List α}

/-- **A list is told by its keys and by the items of each.** -/
theorem eq_of_keyed {list other : List α} (hkeys : list.map key = other.map key)
    (hitems : ∀ k, keyed key k list = keyed key k other) : list = other := by
  induction list generalizing other with
  | nil => exact (List.map_eq_nil_iff.1 hkeys.symm).symm
  | cons a list ih =>
    obtain ⟨b, other, rfl, hb, hrest⟩ := List.map_eq_cons_iff.1 hkeys.symm
    have hfirst := hitems (key a)
    rw [keyed_cons, if_pos rfl, keyed_cons, if_pos hb] at hfirst
    obtain rfl : a = b := (List.cons.inj hfirst).1
    rw [ih hrest.symm fun k => ?_]
    have hk := hitems k
    rw [keyed_cons, keyed_cons] at hk
    split at hk
    · exact (List.cons.inj hk).2
    · exact hk

/-- The key of a constant is among the keys once the constants are put in. -/
theorem key_mem_overlay (own : List α) {c : α} (h : c ∈ constants) :
    key c ∈ (overlay key own constants).map key := by
  obtain ⟨last, hlast⟩ := exists_lastKeyed? key h
  have hitems := keyed_overlay key own constants (key c)
  rw [hlast] at hitems
  have hmem : last ∈ keyed key (key c) (overlay key own constants) := by
    rw [hitems]
    exact List.mem_cons_self
  obtain ⟨hin, hkey⟩ := List.mem_filter.1 hmem
  exact List.mem_map.2 ⟨last, hin, of_decide_eq_true hkey⟩

/-- Constants whose keys are there already leave the keys as they are. -/
theorem map_key_overlay {own : List α} (h : ∀ c ∈ constants, key c ∈ own.map key) :
    (overlay key own constants).map key = own.map key := by
  unfold overlay
  induction constants generalizing own with
  | nil => rfl
  | cons c constants ih =>
    obtain ⟨hc, hrest⟩ := List.forall_mem_cons.1 h
    obtain ⟨hsame, -⟩ := @putKeyed_of_mem α κ _ key own [] c hc
    rw [List.foldl_cons, ih (hsame.symm ▸ hrest), hsame]

/-- **Constants that were put into a list are put into it again without effect**, even
where keys are repeated. -/
theorem overlay_overlay (key : α → κ) (own constants : List α) :
    overlay key (overlay key own constants) constants = overlay key own constants := by
  refine eq_of_keyed (map_key_overlay fun _ hc => key_mem_overlay own hc) fun k => ?_
  rw [keyed_overlay key (overlay key own constants), keyed_overlay]
  cases lastKeyed? key k constants with
  | some last => rfl
  | none => rfl

/-- A list that the defaults fill and the constants are put into comes to the same
again. -/
theorem mergeKeyed_again (key : α → κ) (own defaults constants : Option (List α)) :
    mergeKeyed key ((mergeKeyed key (own.or defaults) constants).or defaults) constants
      = mergeKeyed key (own.or defaults) constants := by
  cases constants with
  | none =>
    show (own.or defaults).or defaults = own.or defaults
    rw [Option.or_assoc, Option.or_self]
  | some items => exact congrArg some (overlay_overlay key _ items)

end Lists

/-! ## Fields

A value in force is the value of the effective specification, so asking again which
value is in force asks the constants, then the value in force, and the answer is the
same. For lists there are two steps to go through, to fill and to put; that a list is
of this kind is a statement about both, and it is checked for the four. -/

variable {α : Type} (layers : StackLayers) (own : ApplicationSpec)

/-- **A value in force stays in force.** -/
theorem StackLayers.inForce_effective (f : SpecField α) :
    layers.inForce (own.effective layers) f = layers.inForce own f := by
  unfold inForce
  rw [f.get_effective, inForce]
  cases layers.constants.bind f.get with
  | some _ => rfl
  | none => rw [Option.none_or, Option.none_or, Option.or_assoc, Option.or_self]

namespace ApplicationSpec

/-- **A list that takes the constants item by item**: the defaults fill it in as a whole,
and the operator adds nothing to it. -/
structure IsKeyedList {κ : Type} [DecidableEq κ] (key : α → κ)
    (list : ApplicationSpec → Option (List α)) : Prop where
  /-- The defaults fill it in. -/
  fillFrom : ∀ own defaults : ApplicationSpec,
    list (own.fillFrom defaults) = (list own).or (list defaults)
  /-- The constants are put into it. -/
  overrideBy : ∀ own constants : ApplicationSpec,
    list (own.overrideBy constants) = mergeKeyed key (list own) (list constants)
  /-- It needs no value. -/
  complete : ∀ own : ApplicationSpec, list own.complete = list own

variable {κ : Type} [DecidableEq κ] {key : α → κ} {list : ApplicationSpec → Option (List α)}

theorem IsKeyedList.effective (h : IsKeyedList key list) :
    list (own.effective layers)
      = mergeKeyed key ((list own).or (list layers.defaults)) (layers.constants.bind list) := by
  unfold ApplicationSpec.effective
  cases layers.constants with
  | none => exact (h.complete _).trans (h.fillFrom ..)
  | some constants =>
    rw [← h.fillFrom]
    exact (h.complete _).trans (h.overrideBy ..)

/-- Such a list is the same again. -/
theorem IsKeyedList.effective_effective (h : IsKeyedList key list) :
    list ((own.effective layers).effective layers) = list (own.effective layers) := by
  rw [h.effective layers (own.effective layers), h.effective layers own]
  exact mergeKeyed_again key _ _ _

theorem isKeyedList_env : IsKeyedList EnvVar.name ApplicationSpec.env :=
  ⟨fun _ _ => rfl, fun _ _ => rfl, fun _ => rfl⟩

theorem isKeyedList_envFrom : IsKeyedList EnvFrom.key ApplicationSpec.envFrom :=
  ⟨fun _ _ => rfl, fun _ _ => rfl, fun _ => rfl⟩

theorem isKeyedList_volumes : IsKeyedList Volume.name ApplicationSpec.volumes :=
  ⟨fun _ _ => rfl, fun _ _ => rfl, fun _ => rfl⟩

theorem isKeyedList_volumeMounts : IsKeyedList VolumeMount.mountPath ApplicationSpec.volumeMounts :=
  ⟨fun _ _ => rfl, fun _ _ => rfl, fun _ => rfl⟩

end ApplicationSpec

/-! ## Autoscaling

What happens to autoscaling is described by one function, `StackLayers.refine`, which
the defaults apply to autoscaling that is there. The first time it is applied only
where the application asked; the second time it is applied in any case, because by
then there is some. So the second result is the first one refined, and it is the first
one exactly if there was nothing to refine. -/

namespace StackLayers

/-- **Autoscaling as the defaults refine it.** -/
def refine (layers : StackLayers) (scaling : Option Autoscaling) : Option Autoscaling :=
  Layer.defaults.mergeAutoscaling scaling layers.defaults.autoscaling

/-- **A default is withheld** from a limit of autoscaling: the constants ask for
autoscaling, the application does not, and only the defaults set the limit. -/
structure Withholds (layers : StackLayers) (own : ApplicationSpec)
    (limit : Autoscaling → Option Int32) : Prop where
  /-- The application does not ask for autoscaling. -/
  unasked : own.autoscaling = none
  /-- The constants do. -/
  asked : (layers.constants.bind (·.autoscaling)).isSome = true
  /-- They leave the limit open. -/
  unset : (layers.constants.bind (·.autoscaling)).bind limit = none
  /-- There is a default for it. -/
  filled : (layers.defaults.autoscaling.bind limit).isSome = true

theorem refine_some (scaling : Autoscaling) :
    layers.refine (some scaling) = some
      { minReplicas := scaling.minReplicas.or (layers.defaults.autoscaling.bind (·.minReplicas))
        maxReplicas := scaling.maxReplicas.or (layers.defaults.autoscaling.bind (·.maxReplicas))
        targetCpu := scaling.targetCpu.or (layers.defaults.autoscaling.bind (·.targetCpu)) } := by
  unfold refine
  cases layers.defaults.autoscaling with
  | none => simp [Layer.mergeAutoscaling]
  | some d => rfl

theorem refine_none : layers.refine none = none := by
  unfold refine
  cases layers.defaults.autoscaling with
  | none => rfl
  | some d => rfl

/-- What the defaults have refined they refine no further. -/
theorem refine_refine (scaling : Option Autoscaling) :
    layers.refine (layers.refine scaling) = layers.refine scaling := by
  cases scaling with
  | none => rw [refine_none, refine_none]
  | some s => simp [refine_some, Option.or_assoc]

/-- **Whether the defaults refine a limit in force** where autoscaling is asked for. -/
theorem or_limitInForce_iff (limit : Autoscaling → Option Int32)
    (hasked : own.autoscaling.isSome = true
      ∨ (layers.constants.bind (·.autoscaling)).isSome = true) :
    (layers.limitInForce own limit).or (layers.defaults.autoscaling.bind limit)
        = layers.limitInForce own limit ↔ ¬ layers.Withholds own limit := by
  unfold limitInForce
  cases hconstant : (layers.constants.bind (·.autoscaling)).bind limit with
  | some v =>
    exact iff_of_true rfl fun h => by simpa [hconstant] using h.unset
  | none =>
    rw [Option.none_or]
    cases hown : own.autoscaling with
    | some s =>
      refine iff_of_true ?_ fun h => by simpa [hown] using h.unasked
      show ((limit s).or (layers.defaults.autoscaling.bind limit)).or _ = _
      rw [Option.or_assoc, Option.or_self]
      rfl
    | none =>
      have hconstants := hasked.resolve_left (by simp [hown])
      show layers.defaults.autoscaling.bind limit = none ↔ _
      rw [← Option.not_isSome_iff_eq_none]
      exact not_congr ⟨fun h => ⟨hown, hconstants, hconstant, h⟩, fun h => h.filled⟩

/-- **The layers around an effective specification refine its autoscaling.** -/
theorem scalingInForce_effective :
    layers.scalingInForce (own.effective layers) = layers.refine (layers.scalingInForce own) := by
  have hmade := own.autoscaling_effective layers
  cases hasked : own.autoscaling.isSome || (layers.constants.bind (·.autoscaling)).isSome with
  | false =>
    rw [scalingInForce, hasked, if_neg Bool.false_ne_true] at hmade
    rw [scalingInForce, scalingInForce, hasked, hmade, (Bool.or_eq_false_iff.1 hasked).2]
    exact layers.refine_none.symm
  | true =>
    -- a constant counts no more when it is asked again, and a limit that the operator
    -- has set leaves nothing to the defaults
    have hconstant : ∀ c x d : Option Int32, c.or ((c.or x).or d) = (c.or x).or d := by
      intro c x d
      cases c with
      | none => rfl
      | some _ => rfl
    have hleast : ∀ c x d : Option Int32,
        (c.or (((c.or x).or (some 1)).or d)).or (some 1) = ((c.or x).or (some 1)).or d := by
      intro c x d
      rw [show (c.or x).or (some 1) = c.or (x.or (some 1)) from Option.or_assoc, hconstant]
      exact Option.or_of_isSome (by simp)
    rw [← hmade]
    rw [scalingInForce, if_pos hasked] at hmade
    rw [hmade, refine_some, scalingInForce, hmade, if_pos (by rfl)]
    simp only [limitInForce, hmade, Option.bind_some, Option.isSome_some, if_true]
    rw [hleast, hconstant, hconstant]

/-- **Refining changes the autoscaling in force** exactly if a default was withheld. -/
theorem refine_scalingInForce_iff :
    layers.refine (layers.scalingInForce own) = layers.scalingInForce own
      ↔ ¬ layers.Withholds own (·.maxReplicas) ∧ ¬ layers.Withholds own (·.targetCpu) := by
  unfold scalingInForce
  split
  · rename_i hasked
    rw [Bool.or_eq_true] at hasked
    rw [refine_some, Option.some.injEq, Autoscaling.mk.injEq,
      layers.or_limitInForce_iff own (·.maxReplicas) hasked,
      layers.or_limitInForce_iff own (·.targetCpu) hasked]
    exact and_iff_right (Option.or_of_isSome (by simp))
  · rename_i hasked
    have hnone : ∀ limit, ¬ layers.Withholds own limit := fun limit h =>
      hasked (by rw [h.asked, Bool.or_true])
    exact iff_of_true layers.refine_none ⟨hnone _, hnone _⟩

end StackLayers

/-- **Applying layers again refines the autoscaling** and leaves all else as it is. -/
theorem ApplicationSpec.effective_effective :
    (own.effective layers).effective layers = { own.effective layers with
      autoscaling := layers.refine (own.effective layers).autoscaling } := by
  have hroute : ((own.effective layers).effective layers).route.isSome
      = (own.effective layers).route.isSome := by
    rw [isSome_route_effective, isSome_route_effective]
    cases (layers.constants.bind (·.route)).isSome <;> cases own.route.isSome <;>
      cases layers.defaults.route.isSome <;> rfl
  have hservice : ((own.effective layers).effective layers).service.isSome
      = (own.effective layers).service.isSome :=
    (isSome_service_effective _ layers).trans (isSome_service_effective own layers).symm
  have hscaling : ((own.effective layers).effective layers).autoscaling
      = layers.refine (own.effective layers).autoscaling := by
    rw [autoscaling_effective, layers.scalingInForce_effective, ← autoscaling_effective]
  refine ext_fields (fun f => ?_) hservice hroute hscaling (stack_effective _ layers)
    (isKeyedList_env.effective_effective layers own)
    (isKeyedList_envFrom.effective_effective layers own)
    (isKeyedList_volumes.effective_effective layers own)
    (isKeyedList_volumeMounts.effective_effective layers own)
  rw [f.get_effective, layers.inForce_effective, ← f.get_effective]
  cases f <;> rfl

/-- The third time nothing is left to be done. -/
theorem ApplicationSpec.effective_settled :
    ((own.effective layers).effective layers).effective layers
      = (own.effective layers).effective layers := by
  rw [effective_effective layers (own.effective layers), effective_effective layers own]
  simp only [layers.refine_refine]

/-- **The layers come to the same again** exactly if no default was withheld. -/
theorem ApplicationSpec.effective_effective_eq_iff :
    (own.effective layers).effective layers = own.effective layers
      ↔ ¬ layers.Withholds own (·.maxReplicas) ∧ ¬ layers.Withholds own (·.targetCpu) := by
  rw [← layers.refine_scalingInForce_iff, ← own.autoscaling_effective, effective_effective]
  constructor
  · exact fun h => congrArg (·.autoscaling) h
  · intro h
    rw [h]

/-! ## Admission

A default may be withheld from either limit, and it makes a difference only for one of
them: autoscaling without an upper limit is not admitted. There the first application
of the layers refuses what the second would accept. For the target of use no check
exists, so the verdict is the same. -/

namespace ApplicationSpec

/-- **A default that is withheld from the upper limit** leaves autoscaling without one,
and gives it one the next time. -/
theorem scaling_of_withholds (h : layers.Withholds own (·.maxReplicas)) :
    ∃ scaling refined most, (own.effective layers).autoscaling = some scaling
      ∧ scaling.maxReplicas = none
      ∧ layers.refine (own.effective layers).autoscaling = some refined
      ∧ refined.maxReplicas = some most := by
  obtain ⟨most, hmost⟩ := Option.isSome_iff_exists.1 h.filled
  have hlimit : layers.limitInForce own (·.maxReplicas) = none := by
    rw [StackLayers.limitInForce, h.unset, h.unasked]
    rfl
  have hmade := own.autoscaling_effective layers
  rw [StackLayers.scalingInForce, h.asked, Bool.or_true, if_pos rfl, hlimit] at hmade
  exact ⟨_, _, most, hmade, rfl, (congrArg layers.refine hmade).trans (layers.refine_some _), hmost⟩

/-- Where no default is withheld from the upper limit, autoscaling has the faults that it
had. -/
theorem faults_refine (h : ¬ layers.Withholds own (·.maxReplicas)) :
    ((layers.refine (own.effective layers).autoscaling).map Autoscaling.faults).getD []
      = ((own.effective layers).autoscaling.map Autoscaling.faults).getD [] := by
  rw [autoscaling_effective, StackLayers.scalingInForce]
  split
  · rename_i hasked
    rw [Bool.or_eq_true] at hasked
    have hmost := (layers.or_limitInForce_iff own (·.maxReplicas) hasked).2 h
    rw [layers.refine_some, hmost, Option.or_of_isSome (by simp)]
    rfl
  · rw [layers.refine_none]

/-- **The same is said of the specification again** exactly if no default was withheld
from the upper limit. -/
theorem validate_effective_iff :
    ((own.effective layers).effective layers).validate = (own.effective layers).validate
      ↔ ¬ layers.Withholds own (·.maxReplicas) := by
  -- the sections around autoscaling are settled, so their faults are the same both times
  obtain ⟨before, after, hfaults⟩ := (own.effective layers).exists_faults_eq
  have hagain : ((own.effective layers).effective layers).faults = before
      ++ ((layers.refine (own.effective layers).autoscaling).map Autoscaling.faults).getD []
      ++ after := by
    rw [effective_effective, hfaults]
  have honce : (own.effective layers).faults = before
      ++ ((own.effective layers).autoscaling.map Autoscaling.faults).getD [] ++ after :=
    hfaults (own.effective layers).autoscaling
  constructor
  · intro hsame hwithheld
    obtain ⟨scaling, refined, most, hscaling, hopen, hrefined, hmost⟩ :=
      scaling_of_withholds layers own hwithheld
    have hopen : scaling.faults = [.noMaxReplicas] := by
      unfold Autoscaling.faults
      rw [hopen]
    -- the verdict is one text and need not tell its faults apart, so lengths are compared: the
    -- text for a missing limit has another length than any that can come in its place
    have hlengths := lengthOfAll_of_validate hsame
    rw [hagain, honce, hrefined, hscaling, Option.map_some, Option.map_some, Option.getD_some,
      Option.getD_some, hopen, Fault.lengthOfAll_append, Fault.lengthOfAll_append,
      Fault.lengthOfAll_append, Fault.lengthOfAll_append] at hlengths
    exact Autoscaling.lengthOfAll_faults hmost
      (Nat.add_left_cancel (Nat.add_right_cancel hlengths))
  · intro hnot
    unfold validate
    rw [hagain, faults_refine layers own hnot, ← honce]

end ApplicationSpec

/-! ## Applying layers again

The statement compares whole outcomes, the specification with its verdict, and says of
each part when it is the same. It has no hypotheses: whether the first outcome was a
success or not, and whatever the layers hold, what comes the second time is determined
by what was withheld the first time. -/

namespace Application

/-- **What comes of applying layers again**: what `again` has to do with `once`, where
the one is made and admitted of the application and the other of what is made. -/
structure Reapplied (app : Application) (layers : StackLayers)
    (once again : Application × Except OperatorError Unit) : Prop where
  /-- It is the same application with the same verdict unless a default was withheld. -/
  same_iff : again = once
    ↔ ¬ layers.Withholds app.spec (·.maxReplicas) ∧ ¬ layers.Withholds app.spec (·.targetCpu)
  /-- It is the same verdict unless a default was withheld from the upper limit. -/
  verdict_iff : again.2 = once.2 ↔ ¬ layers.Withholds app.spec (·.maxReplicas)
  /-- An application that was admitted is admitted. -/
  admitted : once.2 = .ok () → again.2 = .ok ()
  /-- Autoscaling is refined by the defaults, and nothing else is changed. -/
  refined : again.1 = { once.1 with spec := { once.1.spec with
    autoscaling := layers.refine once.1.spec.autoscaling } }
  /-- After that nothing changes any more. -/
  settled : again.1.normalized layers = again

/-- **Layers that are applied again come to the same**, but for the defaults that were
withheld from autoscaling for which only the constants ask. -/
theorem normalized_again (app : Application) (layers : StackLayers) :
    Reapplied app layers (app.normalized layers)
      ((app.normalized layers).1.normalized layers) where
  same_iff := by
    rw [← app.spec.effective_effective_eq_iff layers]
    constructor
    · exact fun h => congrArg (·.1.spec) h
    · intro h
      unfold normalized
      dsimp only
      rw [h]
  verdict_iff := ApplicationSpec.validate_effective_iff layers app.spec
  admitted h := by
    refine ((ApplicationSpec.validate_effective_iff layers app.spec).2 fun hwithheld => ?_).trans h
    -- what lacks an upper limit is not admitted
    obtain ⟨scaling, -, -, hscaling, hopen, -⟩ :=
      ApplicationSpec.scaling_of_withholds layers app.spec hwithheld
    have horder := (ApplicationSpec.faults_eq_nil_iff _).1
      ((ApplicationSpec.validate_eq_ok_iff _).1 h)
    obtain ⟨most, hmost, -⟩ := horder.autoscaling scaling hscaling
    simp [hopen] at hmost
  refined := congrArg (fun spec => { app with spec })
    (ApplicationSpec.effective_effective layers app.spec)
  settled := by
    unfold normalized
    dsimp only
    rw [ApplicationSpec.effective_settled]

/-- **Applying layers is not idempotent.** -/
theorem not_normalized_again_of_withheld :
    let app : Application := { (default : Application) with
      spec := { (default : ApplicationSpec) with applicationImage := "img" } }
    let scaledTo (most : Option Int32) : StackLayers :=
      { defaults := { (default : ApplicationSpec) with
          autoscaling := some ⟨none, some 4, some 50⟩ }
        constants := some { (default : ApplicationSpec) with
          autoscaling := some ⟨some 2, most, none⟩ } }
    let once (most : Option Int32) := app.normalized (scaledTo most)
    let again (most : Option Int32) := (once most).1.normalized (scaledTo most)
    ((once none).2 = .error (.inadmissible "autoscaling.maxReplicas is required")
        ∧ (again none).2 = .ok ())
      ∧ (once (some 5)).2 = .ok () ∧ (again (some 5)).1 ≠ (once (some 5)).1 := by
  -- verdicts are compared by their faults, as texts are costly to evaluate
  intro app scaledTo once again
  have hverdict : ∀ (app : Application) (layers : StackLayers),
      (app.normalized layers).2 = (app.normalized layers).1.spec.validate := fun _ _ => rfl
  have hopen : (once none).1.spec.faults = [.noMaxReplicas] := by decide +kernel
  have hrefined : (again none).1.spec.faults = [] := by decide +kernel
  have hclosed : (once (some 5)).1.spec.faults = [] := by decide +kernel
  have hscaling : (once (some 5)).1.spec.autoscaling = some ⟨some 2, some 5, none⟩
      ∧ (again (some 5)).1.spec.autoscaling = some ⟨some 2, some 5, some 50⟩ := by decide +kernel
  refine ⟨⟨(hverdict ..).trans ?_, (hverdict ..).trans ?_⟩, (hverdict ..).trans ?_, fun h => ?_⟩
  · unfold ApplicationSpec.validate
    rw [hopen]
    rfl
  · exact (ApplicationSpec.validate_eq_ok_iff _).2 hrefined
  · exact (ApplicationSpec.validate_eq_ok_iff _).2 hclosed
  · rw [← h, hscaling.2] at hscaling
    simp at hscaling

end Application

end AppOperator
