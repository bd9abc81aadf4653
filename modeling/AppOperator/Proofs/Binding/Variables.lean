import AppOperator.Proofs.Binding.Delivery

/-!
# Variables of bindings

Each key of a service that is not mounted becomes a variable, named after
the namespace and the name of the provider and the key. The name of a variable
has only capital letters, digits and `_`, so the parts are joined and every
character that is neither letter nor digit becomes `_`. Two things are lost by
this. Different keys may look alike, in one secret (`db.url` and `db-url`) or
in two, and then the later of two variables of one name hides the earlier. And
a namespace may begin with a digit, as no variable may.

Nothing else can go wrong: the variables are as they should be, with one for
each key, exactly if no two keys look alike and no provider of a key has such
a namespace (`Application.usable_iff`). Keys do not look alike where all names
are made of small letters and digits only (`Application.keysApart_of_plain`).

The condition cannot be read off the specification alone, since the keys are the
provider's and are known only when its secret is read. It is a condition on what is
stored, decidable there, which is as early as the operator could check it.
-/

namespace AppOperator

/-! ## Characters

What is kept of a character is told by its number: a small letter goes down by 32,
other letters and digits stay, and all else becomes the mark between the parts of a
name. With these numbers the statements about characters are linear and are left to
`omega`. -/

namespace Binding

theorem isLower_iff_toNat {c : Char} : c.isLower = true ↔ 97 ≤ c.toNat ∧ c.toNat ≤ 122 := by
  show (decide ('a'.val ≤ c.val) && decide (c.val ≤ 'z'.val)) = true ↔ _
  simp [UInt32.le_iff_toNat_le]

theorem isUpper_iff_toNat {c : Char} : c.isUpper = true ↔ 65 ≤ c.toNat ∧ c.toNat ≤ 90 := by
  show decide ('A'.val ≤ c.val ∧ c.val ≤ 'Z'.val) = true ↔ _
  simp [UInt32.le_iff_toNat_le]

/-- A small letter is made a capital by going down by 32, which is done in words. -/
theorem toNat_toUpper (c : Char) :
    c.toUpper.toNat = if c.isLower then c.toNat - 32 else c.toNat := by
  unfold Char.toUpper
  split
  · rename_i h
    have hrange : 97 ≤ c.toNat ∧ c.toNat ≤ 122 := by simpa [UInt32.le_iff_toNat_le] using h
    have hdown : ('A'.val - 'a'.val).toNat = 2 ^ 32 - 32 := by decide
    have hval : c.val.toNat = c.toNat := rfl
    rw [if_pos (isLower_iff_toNat.2 hrange)]
    show (c.val + ('A'.val - 'a'.val)).toNat = _
    rw [UInt32.toNat_add, hdown]
    omega
  · rename_i h
    have hrange : ¬ (97 ≤ c.toNat ∧ c.toNat ≤ 122) := by simpa [UInt32.le_iff_toNat_le] using h
    rw [if_neg fun hlower => hrange (isLower_iff_toNat.1 hlower)]

/-- The number of a character as it stands in the name of a variable. -/
theorem toNat_envChar (c : Char) :
    (envChar c).toNat
      = if c.isLower then c.toNat - 32 else if c.isUpper ∨ c.isDigit then c.toNat else 95 := by
  show (if c.isUpper || c.isLower || c.isDigit then c.toUpper else '_').toNat = _
  simp only [Bool.or_eq_true]
  cases hlower : c.isLower with
  | true => simp [toNat_toUpper, hlower]
  | false => split <;> simp_all [toNat_toUpper]

/-- It is one that the name of a variable can have, -/
theorem envChar_isVariable (c : Char) :
    (envChar c).isUpper = true ∨ (envChar c).isDigit = true ∨ envChar c = '_' := by
  have h := toNat_envChar c
  rw [isUpper_iff_toNat, Char.isDigit_iff_toNat, ← Char.toNat_inj]
  simp only [isLower_iff_toNat, isUpper_iff_toNat, Char.isDigit_iff_toNat,
    Char.reduceToNat] at h ⊢
  split at h
  · omega
  · split at h <;> omega

/-- and a digit only where a digit stood. -/
theorem isDigit_envChar (c : Char) : (envChar c).isDigit = c.isDigit := by
  have h := toNat_envChar c
  rw [Bool.eq_iff_iff, Char.isDigit_iff_toNat, Char.isDigit_iff_toNat]
  simp only [isLower_iff_toNat, isUpper_iff_toNat, Char.isDigit_iff_toNat,
    Char.reduceToNat] at h ⊢
  split at h
  · omega
  · split at h <;> omega

/-! ## Names of variables

The name of a variable is a text with every character replaced by what it looks like
in capitals. Joining the parts and replacing characters can be done in either order
(`Binding.envName_eq_look`), so two variables have one name exactly if their parts,
joined by dashes, look alike; nothing is said of the parts by themselves. That is
enough to find pairs that collide, and for plain parts enough to see that none do. -/

/-- A text as it stands in the name of a variable. -/
def look (text : String) : String := text.map envChar

/-- **A name that a variable can have**: of capital letters, digits and `_`,
and beginning with no digit. -/
def IsVariableName (name : String) : Prop :=
  (∀ c ∈ name.toList, c.isUpper = true ∨ c.isDigit = true ∨ c = '_')
    ∧ ∃ c ∈ name.toList.head?, c.isDigit = false

/-- Whether a text begins with a digit. -/
def startsWithDigit (text : String) : Bool := text.toList.head?.any (·.isDigit)

theorem toList_envName (ns name key : String) :
    (envName ns name key).toList
      = (ns.toList.map envChar ++ '_' :: name.toList.map envChar)
        ++ '_' :: key.toList.map envChar := by
  have hmark : envChar '_' = '_' := by decide
  simp [envName, hmark]

/-- **The name of a variable** is how the secret's name and the key look. -/
theorem envName_eq_look (ns name key : String) :
    envName ns name key = look (secretName ns name ++ "-" ++ key) := by
  have hdash : envChar '-' = '_' := by decide
  refine String.toList_injective ?_
  rw [toList_envName]
  simp [look, secretName, hdash]

/-- **It is a name that a variable can have** unless the namespace begins with a digit. -/
theorem isVariableName_envName (ns name key : String) :
    IsVariableName (envName ns name key) ↔ startsWithDigit ns = false := by
  have hchars : ∀ c ∈ (envName ns name key).toList,
      c.isUpper = true ∨ c.isDigit = true ∨ c = '_' := by
    intro c hc
    rw [envName_eq_look, look, String.toList_map] at hc
    obtain ⟨c, -, rfl⟩ := List.mem_map.1 hc
    exact envChar_isVariable c
  have hfirst : (envName ns name key).toList.head?
      = some ((ns.toList.head?.map envChar).getD '_') := by
    rw [toList_envName]
    cases ns.toList with
    | nil => rfl
    | cons c rest => rfl
  rw [IsVariableName, hfirst, startsWithDigit]
  refine (and_iff_right hchars).trans ?_
  cases ns.toList.head? with
  | none => simp
  | some c => simp [isDigit_envChar]

/-- A small letter or a digit. -/
def IsPlain (c : Char) : Prop := c.isLower = true ∨ c.isDigit = true

/-- **A text of small letters and digits.** -/
def Plain (text : String) : Prop := ∀ c ∈ text.toList, IsPlain c

theorem toNat_envChar_of_plain {c : Char} (h : IsPlain c) :
    (envChar c).toNat = if c.isLower then c.toNat - 32 else c.toNat := by
  rw [toNat_envChar]
  split
  · rfl
  · rename_i hlower
    exact if_pos (.inr (h.resolve_left hlower))

/-- Plain characters are told apart in the name of a variable, -/
theorem eq_of_envChar_eq {c d : Char} (hc : IsPlain c) (hd : IsPlain d)
    (h : envChar c = envChar d) : c = d := by
  have hnumber := congrArg Char.toNat h
  rw [toNat_envChar_of_plain hc, toNat_envChar_of_plain hd] at hnumber
  rw [← Char.toNat_inj]
  simp only [IsPlain, isLower_iff_toNat, Char.isDigit_iff_toNat, Char.reduceToNat] at *
  split at hnumber
  · split at hnumber <;> omega
  · split at hnumber <;> omega

/-- and from the mark between its parts. -/
theorem envChar_ne_mark {c : Char} (hc : IsPlain c) : envChar c ≠ '_' := by
  intro h
  have hnumber := congrArg Char.toNat h
  rw [toNat_envChar_of_plain hc] at hnumber
  simp only [IsPlain, isLower_iff_toNat, Char.isDigit_iff_toNat, Char.reduceToNat] at *
  split at hnumber <;> omega

theorem Plain.mark_notMem {text : String} (h : Plain text) : '_' ∉ text.toList.map envChar := by
  intro hmem
  obtain ⟨c, hc, hmark⟩ := List.mem_map.1 hmem
  exact envChar_ne_mark (h c hc) hmark

/-- So plain texts that look alike are the same. -/
theorem Plain.eq_of_look {a b : String} (ha : Plain a) (hb : Plain b)
    (h : a.toList.map envChar = b.toList.map envChar) : a = b := by
  have hlists : ∀ cs ds : List Char, (∀ c ∈ cs, IsPlain c) → (∀ d ∈ ds, IsPlain d) →
      cs.map envChar = ds.map envChar → cs = ds := by
    intro cs
    induction cs with
    | nil => exact fun ds _ _ hmap => (List.map_eq_nil_iff.1 hmap.symm).symm
    | cons c rest ih =>
      intro ds hc hd hmap
      cases ds with
      | nil => simp at hmap
      | cons d more =>
        obtain ⟨hfirst, hrest⟩ := List.cons.inj hmap
        obtain ⟨hc, hcs⟩ := List.forall_mem_cons.1 hc
        obtain ⟨hd, hds⟩ := List.forall_mem_cons.1 hd
        rw [eq_of_envChar_eq hc hd hfirst, ih more hcs hds hrest]
  exact String.toList_injective (hlists _ _ ha hb h)

/-- **A variable's name tells its parts apart** if they are plain. -/
theorem envName_inj {ns ns' name name' key key' : String} (hns : Plain ns) (hns' : Plain ns')
    (hname : Plain name) (hname' : Plain name') (hkey : Plain key) (hkey' : Plain key')
    (h : envName ns name key = envName ns' name' key') : ns = ns' ∧ name = name' ∧ key = key' := by
  have hlists := congrArg String.toList h
  rw [toList_envName, toList_envName] at hlists
  obtain ⟨hprovider, hkeys⟩ := Split.append_cons_inj hkey.mark_notMem hkey'.mark_notMem hlists
  obtain ⟨hnss, hnames⟩ := Split.append_cons_inj hname.mark_notMem hname'.mark_notMem hprovider
  exact ⟨hns.eq_of_look hns' hnss, hname.eq_of_look hname' hnames, hkey.eq_of_look hkey' hkeys⟩

/-- The variable for one key of a provider's secret. -/
def variableOf (p : (String × String) × String) : EnvVar :=
  .ofSecretKey (envName p.1.1 p.1.2 p.2) (secretName p.1.1 p.1.2) p.2

end Binding

/-! ## Keys that are read

All keys of all services are listed in one list, with their providers, in the order of
the variables. It is a list without repetitions if the services have different
providers, so what is lost on the way to variables is lost only by looking alike. The
conditions on the keys are put into words about this list, and so is the conclusion. -/

/-- Whether a secret has a key, with bytes or with text. -/
def Secret.holds (s : Secret) (key : String) : Bool :=
  (s.data.getD .empty).contains key || (s.stringData.getD .empty).contains key

theorem Secret.mem_keys_iff {s : Secret} {key : String} : key ∈ s.keys ↔ s.holds key = true := by
  rw [Secret.keys, Secret.holds, Dict.mem_keys, Dict.get?_extend, Dict.get?_map, Dict.get?_map,
    Dict.contains, Dict.contains]
  cases (s.data.getD .empty).get? key with
  | none => cases (s.stringData.getD .empty).get? key <;> simp
  | some _ => cases (s.stringData.getD .empty).get? key <;> simp

/-- The keys of a service with its provider, as they are read. -/
def Consumes.keysRead (entry : Consumes) (own : String) (objects : Dict ObjectKey Json) :
    List ((String × String) × String) :=
  ((entry.found? own objects).map fun source =>
    source.keys.map fun key => (entry.provider own, key)).getD []

namespace Application

/-- **All keys that are read**, with the providers. -/
def keysRead (app : Application) (objects : Dict ObjectKey Json) :
    List ((String × String) × String) :=
  app.consumes.flatMap (·.keysRead app.metadata.nsOrEmpty objects)

/-- **Keys are apart** if no two of them look alike, put behind the name of their secret. -/
def KeysApart (app : Application) (objects : Dict ObjectKey Json) : Prop :=
  ∀ p ∈ app.keysRead objects, ∀ q ∈ app.keysRead objects,
    Binding.look (Binding.secretName p.1.1 p.1.2 ++ "-" ++ p.2)
      = Binding.look (Binding.secretName q.1.1 q.1.2 ++ "-" ++ q.2) → p = q

instance (app : Application) (objects : Dict ObjectKey Json) : Decidable (app.KeysApart objects) :=
  inferInstanceAs (Decidable (∀ p ∈ app.keysRead objects, ∀ q ∈ app.keysRead objects, _ → _))

/-- **Variables that can be used**: their names are different and such as
variables can have, and there is one for each key of each service, and no other. -/
structure Usable (app : Application) (objects : Dict ObjectKey Json) (env : List EnvVar) :
    Prop where
  /-- No variable hides another. -/
  names_distinct : (env.map (·.name)).Nodup
  /-- A container can have them. -/
  names_valid : ∀ v ∈ env, Binding.IsVariableName v.name
  /-- Each key of a service is one variable. -/
  one_each : ∀ entry ∈ app.consumes, ∀ source,
    entry.found? app.metadata.nsOrEmpty objects = some source → ∀ key, source.holds key = true →
      ∃ v, env.filter (·.takes (entry.secretName app.metadata.nsOrEmpty) key) = [v]
  /-- Each variable is for a key of a service. -/
  no_other : ∀ v ∈ env, ∃ entry ∈ app.consumes, ∃ source key,
    entry.found? app.metadata.nsOrEmpty objects = some source ∧ source.holds key = true
      ∧ v.takes (entry.secretName app.metadata.nsOrEmpty) key = true

variable {app : Application} {objects : Dict ObjectKey Json} {b : Bindings}

theorem mem_keysRead {p : (String × String) × String} :
    p ∈ app.keysRead objects ↔ ∃ entry ∈ app.consumes, ∃ source,
      entry.found? app.metadata.nsOrEmpty objects = some source
        ∧ p.1 = entry.provider app.metadata.nsOrEmpty ∧ source.holds p.2 = true := by
  rw [keysRead, List.mem_flatMap]
  refine exists_congr fun entry => and_congr_right fun _ => ?_
  unfold Consumes.keysRead
  cases entry.found? app.metadata.nsOrEmpty objects with
  | none => simp
  | some source =>
    rw [Option.map_some, Option.getD_some, List.mem_map]
    constructor
    · rintro ⟨key, hkey, rfl⟩
      exact ⟨source, rfl, rfl, Secret.mem_keys_iff.1 hkey⟩
    · rintro ⟨_, hsource, hprovider, hkey⟩
      obtain rfl := Option.some.inj hsource
      exact ⟨p.2, Secret.mem_keys_iff.2 hkey, Prod.ext hprovider.symm rfl⟩

/-- **Different providers have no key in common.** -/
theorem nodup_keysRead
    (hdistinct : (app.consumes.map (·.provider app.metadata.nsOrEmpty)).Nodup) :
    (app.keysRead objects).Nodup := by
  have hprovider : ∀ {entry : Consumes} {p}, p ∈ entry.keysRead app.metadata.nsOrEmpty objects →
      p.1 = entry.provider app.metadata.nsOrEmpty := by
    intro entry p hp
    unfold Consumes.keysRead at hp
    cases hsource : entry.found? app.metadata.nsOrEmpty objects with
    | none => simp [hsource] at hp
    | some source =>
      rw [hsource, Option.map_some, Option.getD_some] at hp
      obtain ⟨key, -, rfl⟩ := List.mem_map.1 hp
      rfl
  refine List.nodup_flatMap.2 ⟨fun entry _ => ?_, ?_⟩
  · unfold Consumes.keysRead
    cases entry.found? app.metadata.nsOrEmpty objects with
    | none => exact List.nodup_nil
    | some source => exact (Dict.nodup_keys _).map fun _ _ h => (Prod.mk.inj h).2
  · refine (List.pairwise_map.1 hdistinct).imp fun {entry other} hne p hp hq => ?_
    exact hne ((hprovider hp).symm.trans (hprovider hq))

/-- **The variables are those of the keys that are read**, where nothing is mounted. -/
theorem env_of_keysRead
    (hfrom : Bindings.from? app.metadata.nsOrEmpty objects {} app.consumes = some b)
    (hunmounted : ∀ entry ∈ app.consumes, filled entry.mountPath = none) :
    b.wiring.env = (app.keysRead objects).map Binding.variableOf := by
  rw [Bindings.env_of_from? hfrom, keysRead, List.map_flatMap]
  show List.flatMap _ _ = _
  refine List.flatMap_congr fun entry hentry => ?_
  unfold Consumes.keysRead Consumes.wiring
  rw [hunmounted entry hentry]
  cases entry.found? app.metadata.nsOrEmpty objects with
  | none => rfl
  | some source =>
    rw [Option.map_some, Option.map_some, Option.getD_some, Option.getD_some, List.map_map]
    rfl

/-- **Keys of plain names do not look alike.** -/
theorem keysApart_of_plain (h : ∀ p ∈ app.keysRead objects,
    Binding.Plain p.1.1 ∧ Binding.Plain p.1.2 ∧ Binding.Plain p.2) : app.KeysApart objects := by
  intro p hp q hq hlook
  rw [← Binding.envName_eq_look, ← Binding.envName_eq_look] at hlook
  obtain ⟨hpns, hpname, hpkey⟩ := h p hp
  obtain ⟨hqns, hqname, hqkey⟩ := h q hq
  obtain ⟨hns, hname, hkey⟩ := Binding.envName_inj hpns hqns hpname hqname hpkey hqkey hlook
  exact Prod.ext (Prod.ext hns hname) hkey

/-- The names of the variables are different if and only if the keys are apart. -/
theorem nodup_names_iff (hnodup : (app.keysRead objects).Nodup) :
    (((app.keysRead objects).map Binding.variableOf).map (·.name)).Nodup
      ↔ app.KeysApart objects := by
  rw [List.map_map, List.nodup_map_iff_inj_on hnodup]
  refine forall₂_congr fun p _ => forall₂_congr fun q _ => ?_
  rw [← Binding.envName_eq_look, ← Binding.envName_eq_look]
  rfl

/-- They are such as variables can have if and only if no namespace begins with a digit. -/
theorem names_valid_iff :
    (∀ v ∈ (app.keysRead objects).map Binding.variableOf, Binding.IsVariableName v.name)
      ↔ ∀ p ∈ app.keysRead objects, Binding.startsWithDigit p.1.1 = false := by
  rw [List.forall_mem_map]
  exact forall₂_congr fun p _ => Binding.isVariableName_envName p.1.1 p.1.2 p.2

/-- **Where keys are apart each key is one variable.** -/
theorem filter_takes_of_keysApart (hnodup : (app.keysRead objects).Nodup)
    (hapart : app.KeysApart objects) {p : (String × String) × String}
    (hp : p ∈ app.keysRead objects) :
    ((app.keysRead objects).map Binding.variableOf).filter
        (·.takes (Binding.secretName p.1.1 p.1.2) p.2) = [Binding.variableOf p] := by
  have honly : ∀ q ∈ app.keysRead objects,
      (Binding.variableOf q).takes (Binding.secretName p.1.1 p.1.2) p.2 = decide (q = p) := by
    intro q hq
    rw [Bool.eq_iff_iff, decide_eq_true_iff, Binding.variableOf, EnvVar.takes_ofSecretKey]
    constructor
    · rintro ⟨hsecret, hkey⟩
      exact hapart q hq p hp (by rw [hsecret, hkey])
    · rintro rfl
      exact ⟨rfl, rfl⟩
  rw [List.filter_map]
  have hfilter := List.filter_congr honly
  rw [List.filter_eq, List.count_eq_one_of_mem hnodup hp] at hfilter
  exact congrArg (List.map Binding.variableOf) hfilter

/-- **The variables of an application can be used** if and only if the keys of
its services are apart and no provider of a key has a namespace that begins
with a digit, given that no provider is used twice and nothing is mounted. -/
theorem usable_iff {s s' : Server} (hread : app.bindings.on s = (.ok b, s'))
    (hdistinct : (app.consumes.map (·.provider app.metadata.nsOrEmpty)).Nodup)
    (hunmounted : ∀ entry ∈ app.consumes, filled entry.mountPath = none) :
    app.Usable s.objects b.wiring.env
      ↔ app.KeysApart s.objects
        ∧ ∀ p ∈ app.keysRead s.objects, Binding.startsWithDigit p.1.1 = false := by
  rw [env_of_keysRead (Bindings.from?_of_read hread) hunmounted]
  have hnodup : (app.keysRead s.objects).Nodup := nodup_keysRead hdistinct
  constructor
  · intro h
    exact ⟨(nodup_names_iff hnodup).1 h.names_distinct, names_valid_iff.1 h.names_valid⟩
  · rintro ⟨hapart, hdigits⟩
    refine ⟨(nodup_names_iff hnodup).2 hapart, names_valid_iff.2 hdigits, ?_, ?_⟩
    · intro entry hentry source hsource key hkey
      have hp : (entry.provider app.metadata.nsOrEmpty, key) ∈ app.keysRead s.objects :=
        mem_keysRead.2 ⟨entry, hentry, source, hsource, rfl, hkey⟩
      have hone := filter_takes_of_keysApart hnodup hapart hp
      dsimp only [Consumes.provider] at hone
      exact ⟨_, hone⟩
    · intro v hv
      obtain ⟨p, hp, rfl⟩ := List.mem_map.1 hv
      obtain ⟨entry, hentry, source, hsource, hprovider, hkey⟩ := mem_keysRead.1 hp
      refine ⟨entry, hentry, source, p.2, hsource, hkey, EnvVar.takes_ofSecretKey.2 ⟨?_, rfl⟩⟩
      rw [hprovider]
      rfl

/-- Services of two namespaces give one variable each. -/
theorem usable_iff_of_two_providers :
    let app := bound "shop" "web" "u1" false [("shop", "orders"), ("billing", "invoices")]
    let s := Server.offering [("shop", "orders"), ("billing", "invoices")]
    (app.consumes.map (·.provider app.metadata.nsOrEmpty)).Nodup
      ∧ (∀ entry ∈ app.consumes, filled entry.mountPath = none)
      ∧ ∃ b s', app.bindings.on s = (.ok b, s') ∧ app.Usable s.objects b.wiring.env
        ∧ b.wiring.env.map (·.name) = ["SHOP_ORDERS_URL", "BILLING_INVOICES_URL"] := by
  intro app s
  let b := (app.bindings.on s).1.toOption.getD {}
  have hok : (app.bindings.on s).1.toOption = some b := by decide +kernel
  obtain ⟨s', hread⟩ := Access.on_of_toOption hok
  have hdistinct : (app.consumes.map (·.provider app.metadata.nsOrEmpty)).Nodup := by decide
  have hunmounted : ∀ entry ∈ app.consumes, filled entry.mountPath = none := by decide
  exact ⟨hdistinct, hunmounted, b, s', hread,
    (usable_iff hread hdistinct hunmounted).2 (by decide +kernel), by decide +kernel⟩

/-- Two keys of one secret may look alike, and then the one variable hides the
other, even if the namespace and the name of the provider are plain. -/
theorem not_usable_of_like_keys :
    let app := bound "shop" "web" "u1" false [("shop", "orders")]
    let secret : Secret :=
      { blank Secret with data := some (.ofList [("db-url", [121]), ("db.url", [120])]) }
    let s : Server :=
      { objects := Dict.empty.insert (.of Secret "shop" "shop-orders") (encode secret) }
    (app.consumes.map (·.provider app.metadata.nsOrEmpty)) = [("shop", "orders")]
      ∧ (∀ entry ∈ app.consumes, filled entry.mountPath = none)
      ∧ ∃ b s', app.bindings.on s = (.ok b, s') ∧ ¬ app.Usable s.objects b.wiring.env := by
  intro app secret s
  let b := (app.bindings.on s).1.toOption.getD {}
  have hok : (app.bindings.on s).1.toOption = some b := by decide +kernel
  obtain ⟨s', hread⟩ := Access.on_of_toOption hok
  refine ⟨by decide, by decide, b, s', hread, fun h => ?_⟩
  have hnames : (b.wiring.env.map (·.name)) = ["SHOP_ORDERS_DB_URL", "SHOP_ORDERS_DB_URL"] := by
    decide +kernel
  have hdistinct := h.names_distinct
  rw [hnames] at hdistinct
  simp at hdistinct

end Application
end AppOperator
