import Mathlib.Data.List.Nodup
import AppOperator.Proofs.Binding.Delivery

/-!
# Volumes and mounts of bindings

The volumes of a pod must have different names, no two of them may be mounted
at one place in a container, and what is mounted must be there. The volumes
and mounts of an application come from three sides: its own, those of its
mounted bindings, one after the other, and its storage. Only the last is
added with an eye to the others.

So the pods are well formed exactly if the mounted bindings do not collide
among themselves (`Application.wellMounted_iff`). It is not enough that they
are different services or have different mount paths. The volume of a
binding bears the name of the secret, and the same provider mounted at two
paths has one secret, as have two providers whose namespaces and names are
divided differently by a dash. Paths that differ in the slashes at their end
come to one place, too.

What the application gives itself is assumed to be in order and apart from its
bindings, since all of it is in the hand of one who writes the specification. What the
bindings are called and where they are put is not: names and places are made by the
operator, from parts that look different and may come out the same.
-/

namespace AppOperator

/-! ## What is mounted

The volumes and the mounts of bindings are made while the services are read, one pair
for each service that is mounted. They are two views of one list, of the secrets with
the places that they are mounted at, which follows from the specification before
anything is read; so whether the pods will be well formed can be told from what an
application asks for. -/

/-- The secret of a service that is mounted, and where: in a folder of the
provider's below the path that is asked for. -/
def Consumes.mounted? (entry : Consumes) (own : String) : Option (String × String) :=
  (Application.filled entry.mountPath).map fun path =>
    (entry.secretName own,
      trimEnd '/' path ++ "/" ++ entry.providerNs own ++ "/" ++ entry.name)

/-- **The secrets that an application mounts**, and where. -/
def Application.mounted (app : Application) : List (String × String) :=
  app.consumes.filterMap (·.mounted? app.metadata.nsOrEmpty)

/-- The mount of a secret. -/
def VolumeMount.ofSecret (secretName place : String) : VolumeMount :=
  { name := secretName, mountPath := place, readOnly := some true, other := default }

/-- Every mounted service has one volume and one mount. -/
theorem Consumes.wiring_mounted (entry : Consumes) (own : String) (source : Secret) :
    (entry.wiring own source).volumes
        = (entry.mounted? own).toList.map (fun p => .ofSecret p.1 p.1)
      ∧ (entry.wiring own source).mounts
        = (entry.mounted? own).toList.map fun p => .ofSecret p.1 p.2 := by
  unfold wiring mounted?
  cases Application.filled entry.mountPath with
  | none => exact ⟨rfl, rfl⟩
  | some path => exact ⟨rfl, rfl⟩

/-- **The volumes and mounts of bindings** are those of the mounted services, in order. -/
theorem Bindings.mounted_of_from? {own : String} {objects : Dict ObjectKey Json}
    {entries : List Consumes} {b b' : Bindings} (h : from? own objects b entries = some b') :
    b'.wiring.volumes = b.wiring.volumes
        ++ (entries.filterMap (·.mounted? own)).map (fun p => .ofSecret p.1 p.1)
      ∧ b'.wiring.mounts = b.wiring.mounts
        ++ (entries.filterMap (·.mounted? own)).map fun p => .ofSecret p.1 p.2 := by
  induction entries generalizing b with
  | nil =>
    obtain rfl := Option.some.inj h
    simp
  | cons entry rest ih =>
    obtain ⟨source, -, hrest⟩ := from?_cons.1 h
    obtain ⟨hvolumes, hmounts⟩ := ih hrest
    obtain ⟨hvolume, hmount⟩ := entry.wiring_mounted own source
    have hsplit : (entry :: rest).filterMap (·.mounted? own)
        = (entry.mounted? own).toList ++ rest.filterMap (·.mounted? own) := by
      rw [List.filterMap_cons]
      cases entry.mounted? own with
      | none => rfl
      | some p => rfl
    rw [hsplit, List.map_append, List.map_append, ← List.append_assoc, ← List.append_assoc,
      ← hvolume, ← hmount]
    exact ⟨hvolumes, hmounts⟩

/-! ## Pods

Being without repetitions is a property of a whole list, and the lists come about by
appending: the application's own, those of the bindings, the storage. If each part is
apart from the part before, the whole is without repetitions exactly if the part that
is added is (`nodup_append_iff_of_fresh`). For the storage that is always so, as it is
mounted only at a place where nothing is mounted yet; for the bindings it is what
has to be shown. -/

/-- What is added to a list without repetitions, and is not in it, must have none itself. -/
theorem nodup_append_iff_of_fresh {α : Type} {l added : List α} (h : l.Nodup)
    (hfresh : ∀ a ∈ added, a ∉ l) : (l ++ added).Nodup ↔ added.Nodup := by
  rw [List.nodup_append']
  exact ⟨fun hboth => hboth.2.1, fun hadded => ⟨h, hadded, fun a ha hb => hfresh a hb ha⟩⟩

namespace PodTemplate

/-- The volumes of the pods. -/
def volumes (template : PodTemplate) : List Volume := (template.spec.bind (·.volumes)).getD []

/-- The mounts of the first container of a name. -/
def mountsOf (template : PodTemplate) (name : String) : List VolumeMount :=
  ((template.spec.bind fun pods => pods.containers.find? (·.name = name)).bind
    (·.volumeMounts)).getD []

end PodTemplate

namespace Application

/-- **Well-formed pods**: their volumes have different names, the mounts of
the application's container are at different places, and each is of a volume
or of the application's storage. -/
structure WellMounted (app : Application) (template : PodTemplate) : Prop where
  /-- No two volumes have one name. -/
  volumes_distinct : (template.volumes.map (·.name)).Nodup
  /-- No two mounts are at one place. -/
  places_distinct : ((template.mountsOf containerName).map (·.mountPath)).Nodup
  /-- What is mounted is there. -/
  mounts_known : ∀ mount ∈ template.mountsOf containerName,
    mount.name ∈ template.volumes.map (·.name)
      ∨ app.spec.storage.isSome = true ∧ mount.name = app.storageClaimName

variable {app : Application} {wiring : Wiring}

theorem volumes_podTemplate (old : PodTemplate) :
    (app.podTemplate wiring old).volumes = app.spec.volumes.getD [] ++ wiring.volumes :=
  getD_unlessEmpty _

theorem mountsOf_podTemplate (old : PodTemplate) :
    (app.podTemplate wiring old).mountsOf containerName = app.mounts wiring :=
  getD_unlessEmpty _

/-- The storage is mounted after all others, and only where nothing is mounted yet. -/
theorem mounts_cases (app : Application) (wiring : Wiring) :
    app.mounts wiring = app.spec.volumeMounts.getD [] ++ wiring.mounts
      ∨ ∃ mount : VolumeMount, app.spec.storage.isSome = true ∧ mount.name = app.storageClaimName
        ∧ mount.mountPath ∉ (app.spec.volumeMounts.getD [] ++ wiring.mounts).map (·.mountPath)
        ∧ app.mounts wiring = app.spec.volumeMounts.getD [] ++ wiring.mounts ++ [mount] := by
  unfold mounts
  cases hpath : app.spec.storage.bind (·.mountPath) with
  | none => exact .inl rfl
  | some path =>
    obtain ⟨storage, hstorage, -⟩ := Option.bind_eq_some_iff.1 hpath
    dsimp only
    split
    · exact .inl rfl
    · rename_i hfree
      refine .inr ⟨_, by simp [hstorage], rfl, ?_, rfl⟩
      simpa using hfree

/-- The storage never takes the place of another mount, -/
theorem nodup_places_mounts (app : Application) (wiring : Wiring) :
    ((app.mounts wiring).map (·.mountPath)).Nodup
      ↔ ((app.spec.volumeMounts.getD [] ++ wiring.mounts).map (·.mountPath)).Nodup := by
  rcases mounts_cases app wiring with heq | ⟨mount, -, -, hnew, heq⟩
  · rw [heq]
  · rw [heq, List.map_append]
    constructor
    · exact fun h => (List.nodup_append'.1 h).1
    · intro h
      rw [nodup_append_iff_of_fresh h (by simpa using hnew)]
      exact List.nodup_singleton _

/-- and is the only thing mounted besides. -/
theorem mem_mounts {mount : VolumeMount} (h : mount ∈ app.mounts wiring) :
    mount ∈ app.spec.volumeMounts.getD [] ++ wiring.mounts
      ∨ app.spec.storage.isSome = true ∧ mount.name = app.storageClaimName := by
  rcases mounts_cases app wiring with heq | ⟨claim, hstorage, hclaim, -, heq⟩
  · exact .inl (heq ▸ h)
  · rw [heq] at h
    rcases List.mem_append.1 h with h | h
    · exact .inl h
    · obtain rfl := List.mem_singleton.1 h
      exact .inr ⟨hstorage, hclaim⟩

/-- **The pods of an application are well formed** if and only if its mounted
bindings have different secrets and different places, given that its own
volumes and mounts are in order and apart from those of its bindings. -/
theorem wellMounted_iff {s s' : Server} {b : Bindings} (hread : app.bindings.on s = (.ok b, s'))
    (hvolumes : ((app.spec.volumes.getD []).map (·.name)).Nodup)
    (hplaces : ((app.spec.volumeMounts.getD []).map (·.mountPath)).Nodup)
    (hknown : ∀ mount ∈ app.spec.volumeMounts.getD [],
      mount.name ∈ (app.spec.volumes.getD []).map (·.name))
    (hfree : ∀ volume ∈ b.wiring.volumes,
      volume.name ∉ (app.spec.volumes.getD []).map (·.name))
    (hapart : ∀ mount ∈ b.wiring.mounts,
      mount.mountPath ∉ (app.spec.volumeMounts.getD []).map (·.mountPath))
    (old : PodTemplate) :
    app.WellMounted (app.podTemplate b.wiring old)
      ↔ (app.mounted.map Prod.fst).Nodup ∧ (app.mounted.map Prod.snd).Nodup := by
  obtain ⟨hwiredVolumes, hwiredMounts⟩ :=
    Bindings.mounted_of_from? (Bindings.from?_of_read hread)
  have hnames : b.wiring.volumes.map (·.name) = app.mounted.map Prod.fst := by
    rw [hwiredVolumes]
    simp [Volume.ofSecret, mounted]
  have hpaths : b.wiring.mounts.map (·.mountPath) = app.mounted.map Prod.snd := by
    rw [hwiredMounts]
    simp [VolumeMount.ofSecret, mounted]
  have hmounted : b.wiring.mounts.map (·.name) = b.wiring.volumes.map (·.name) := by
    rw [hwiredVolumes, hwiredMounts]
    simp [VolumeMount.ofSecret, Volume.ofSecret]
  -- each list is without repetitions if the part that the bindings add to it is
  have hvolumesIff : ((app.spec.volumes.getD [] ++ b.wiring.volumes).map (·.name)).Nodup
      ↔ (app.mounted.map Prod.fst).Nodup := by
    rw [List.map_append, ← hnames]
    exact nodup_append_iff_of_fresh hvolumes (by simpa using hfree)
  have hplacesIff : ((app.mounts b.wiring).map (·.mountPath)).Nodup
      ↔ (app.mounted.map Prod.snd).Nodup := by
    rw [nodup_places_mounts, List.map_append, ← hpaths]
    exact nodup_append_iff_of_fresh hplaces (by simpa using hapart)
  have hmounts : ∀ mount ∈ app.mounts b.wiring,
      mount.name ∈ (app.spec.volumes.getD [] ++ b.wiring.volumes).map (·.name)
        ∨ app.spec.storage.isSome = true ∧ mount.name = app.storageClaimName := by
    intro mount hmount
    refine (mem_mounts hmount).imp_left fun hmount => ?_
    rw [List.map_append, List.mem_append]
    rcases List.mem_append.1 hmount with hown | hwired
    · exact .inl (hknown mount hown)
    · exact .inr (hmounted ▸ List.mem_map_of_mem hwired)
  rw [← volumes_podTemplate old] at hvolumesIff hmounts
  rw [← mountsOf_podTemplate old] at hplacesIff hmounts
  constructor
  · rintro ⟨hv, hp, -⟩
    exact ⟨hvolumesIff.1 hv, hplacesIff.1 hp⟩
  · rintro ⟨hv, hp⟩
    exact ⟨hvolumesIff.2 hv, hplacesIff.2 hp, hmounts⟩

/-- An application that mounts the services of some providers. -/
def mounting (uses : List (String × String × String)) : Application :=
  { (default : Application) with
    metadata := { (default : ObjectMeta) with
      name := some "web", ns := some "shop", uid := some "u1" }
    spec := { (default : ApplicationSpec) with
      applicationImage := "app"
      service := some { (default : ServiceSettings) with
        consumes := some (uses.map fun p =>
          { name := p.2.1, ns := some p.1, category := .openApi, mountPath := some p.2.2 }) } } }

/-- Two services and a volume of the application's own stand beside one another. -/
theorem wellMounted_iff_of_two_providers :
    let bare := mounting [("shop", "orders", "/bindings"), ("billing", "invoices", "/bindings/")]
    let app := { bare with
      spec := { bare.spec with
        volumes := some [.ofSecret "tls" "certificates"]
        volumeMounts := some [.ofSecret "tls" "/tls"] } }
    let s := Server.offering [("shop", "orders"), ("billing", "invoices")]
    let b := (app.bindings.on s).1.toOption.getD {}
    ((∀ volume ∈ b.wiring.volumes, volume.name ∉ (app.spec.volumes.getD []).map (·.name))
      ∧ ∀ mount ∈ b.wiring.mounts,
        mount.mountPath ∉ (app.spec.volumeMounts.getD []).map (·.mountPath))
      ∧ ∀ old, app.WellMounted (app.podTemplate b.wiring old) := by
  intro bare app s b
  have hok : (app.bindings.on s).1.toOption = some b := by decide +kernel
  obtain ⟨s', hread⟩ := Access.on_of_toOption hok
  have hfree : ∀ volume ∈ b.wiring.volumes,
      volume.name ∉ (app.spec.volumes.getD []).map (·.name) := by decide +kernel
  have hapart : ∀ mount ∈ b.wiring.mounts,
      mount.mountPath ∉ (app.spec.volumeMounts.getD []).map (·.mountPath) := by decide +kernel
  refine ⟨⟨hfree, hapart⟩, fun old => ?_⟩
  exact (wellMounted_iff hread (by decide) (by decide) (by decide) hfree hapart old).2
    (by decide +kernel)

/-- One provider mounted at two paths has one volume twice: the paths are
different, the bindings are read, and the pods are not well formed. -/
theorem not_wellMounted_of_two_paths :
    let app := mounting [("shop", "orders", "/a"), ("shop", "orders", "/b")]
    let s := Server.offering [("shop", "orders")]
    (app.consumes.map (·.mountPath)).Nodup ∧ app.spec.volumes = none
      ∧ app.spec.volumeMounts = none
      ∧ ∃ b s', app.bindings.on s = (.ok b, s')
        ∧ ¬ app.WellMounted (app.podTemplate b.wiring (blank PodTemplate)) := by
  intro app s
  let b := (app.bindings.on s).1.toOption.getD {}
  have hok : (app.bindings.on s).1.toOption = some b := by decide +kernel
  obtain ⟨s', hread⟩ := Access.on_of_toOption hok
  refine ⟨by decide, rfl, rfl, b, s', hread, fun h => ?_⟩
  have hnames := h.volumes_distinct
  rw [volumes_podTemplate] at hnames
  revert hnames
  decide +kernel

end Application
end AppOperator
