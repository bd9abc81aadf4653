import AppOperator.Extension.ImageStream

/-!
# Which images name a stream

An image is written `[namespace/]name[:tag]` if it names a tag of an image
stream. This module compares the reader of such references with that grammar.
`Parts.Proper` is the grammar, `Parts.Accepted` what the reader accepts, and
the two differ in one place: the namespace and the tag hold no mark, but
nothing keeps the name from holding colons once a tag stands behind it. The
reader splits off the tag at the last colon, looks for another one in the
namespace only, and so takes `a:b` for a name in `a:b:c`.

What it accepts is still read in one way only (`parse?_text`, `exists_of_parse?`),
and the difference is told from the image: among the images with at most one
colon the reader accepts exactly the grammar (`readAsWritten_iff`).

The reader is compared with the grammar over texts, not over a type of well-formed
images, since the field of a specification that holds an image is free text. So the
statements quantify over all texts, and they say of each whether it is read, which
matters as much as how: an image that is not read as a reference is run as it stands.
-/

namespace AppOperator.ImageReference

/-! ## The grammar

Parts are what an image is written with, before any of it is read. The text of some
parts and the reference that they mean are functions of them, so that a statement
about reading can be put as one about parts: which have a text that is read, and as
what. The default namespace and the tag `latest` belong to the meaning and not to the
text; they are why two texts can mean one reference.

The conditions on parts are kept apart by what they are about. `Parts.Framed` is
common to the grammar and to what is accepted, and the two add one condition each,
both about colons in the name. -/

/-- **The parts that an image is written with.** -/
structure Parts where
  /-- The namespace, if one is given. -/
  ns : Option String
  /-- The name. -/
  name : String
  /-- The tag, if one is given. -/
  tag : Option String
deriving DecidableEq

/-- **A part without marks.** -/
structure IsWord (s : String) : Prop where
  ne_empty : s ≠ ""
  slash : '/' ∉ s.toList
  colon : ':' ∉ s.toList
  digest : '@' ∉ s.toList

namespace Parts

/-- **The image that is written with these parts.** -/
def text (p : Parts) : String :=
  (p.ns.map (· ++ "/")).getD "" ++ p.name ++ (p.tag.map (":" ++ ·)).getD ""

/-- **The reference that is meant**: the namespace at hand and the latest
image, where none are given. -/
def reference (p : Parts) (defaultNs : String) : ImageReference :=
  ⟨p.ns.getD defaultNs, p.name, p.tag.getD "latest"⟩

/-- The namespace and the tag are as they should be, and the name is no path. -/
structure Framed (p : Parts) : Prop where
  ns : ∀ ns ∈ p.ns, IsWord ns ∧ '.' ∉ ns.toList
  name : p.name ≠ "" ∧ '/' ∉ p.name.toList ∧ '@' ∉ p.name.toList
  tag : ∀ tag ∈ p.tag, IsWord tag

/-- **The parts of a reference**, as it is documented. A dot in the namespace
would make it the host of a registry. -/
structure Proper (p : Parts) : Prop extends p.Framed where
  colon : ':' ∉ p.name.toList

/-- **The parts of a reference that is accepted**: a name may hold colons, if
another one follows it. -/
structure Accepted (p : Parts) : Prop extends p.Framed where
  tagged : ':' ∈ p.name.toList → p.tag.isSome

theorem Proper.accepted {p : Parts} (h : p.Proper) : p.Accepted :=
  ⟨h.toFramed, fun hc => absurd hc h.colon⟩

/-- What is written before the tag. -/
def path (p : Parts) : List Char :=
  match p.ns with
  | some ns => ns.toList ++ '/' :: p.name.toList
  | none => p.name.toList

theorem toList_text (p : Parts) :
    p.text.toList = p.path ++ (p.tag.map (':' :: ·.toList)).getD [] := by
  obtain ⟨_ | ns, name, _ | tag⟩ := p <;> simp [text, path]

end Parts

/-- The name stands at the end of the path. -/
theorem Parts.exists_path (p : Parts) : ∃ before, p.path = before ++ p.name.toList := by
  obtain ⟨_ | ns, name, tag⟩ := p
  · exact ⟨[], rfl⟩
  · exact ⟨ns.toList ++ ['/'], by simp [Parts.path]⟩

/-- An image is as free of digests as its parts are. -/
theorem Parts.digest_not_mem_iff (p : Parts) :
    '@' ∉ p.text.toList ↔ (∀ ns ∈ p.ns, '@' ∉ ns.toList) ∧ '@' ∉ p.name.toList ∧
      ∀ tag ∈ p.tag, '@' ∉ tag.toList := by
  rw [Parts.toList_text]
  obtain ⟨_ | ns, name, _ | tag⟩ := p <;> simp [Parts.path]

theorem Parts.Framed.digest_not_mem {p : Parts} (h : p.Framed) : '@' ∉ p.text.toList :=
  p.digest_not_mem_iff.2 ⟨fun ns hns => (h.ns ns hns).1.digest, h.name.2.2,
    fun tag htag => (h.tag tag htag).digest⟩

/-! ## The tag

The last colon separates the tag, unless a slash follows it; then it belongs to the
port of a registry and there is no tag. Reading from the end is what makes the two
readings of a colon compatible, and it is where the difference to the grammar begins,
since a colon that is not the last one is simply left in the path. -/

/-- The path of an image and its tag. -/
def splitTag (cs : List Char) : List Char × List Char :=
  match Split.last? ':' cs with
  | some (path, tag) => if tag.contains '/' then (cs, "latest".toList) else (path, tag)
  | none => (cs, "latest".toList)

theorem splitTag_of_tag {path tag : List Char} (hcolon : ':' ∉ tag) (hslash : '/' ∉ tag) :
    splitTag (path ++ ':' :: tag) = (path, tag) := by
  simp [splitTag, Split.last?_append_cons hcolon, hslash]

theorem splitTag_of_no_colon {cs : List Char} (h : ':' ∉ cs) :
    splitTag cs = (cs, "latest".toList) := by
  rw [splitTag, Split.last?_eq_none h]

/-- **What the tag is split off from.** Where none is, every colon has a slash
behind it. -/
theorem splitTag_spec (cs : List Char) :
    ∃ tag : Option String,
      cs = (splitTag cs).1 ++ (tag.map (':' :: ·.toList)).getD [] ∧
      (splitTag cs).2 = (tag.getD "latest").toList ∧
      (∀ t ∈ tag, ':' ∉ t.toList ∧ '/' ∉ t.toList) ∧
      (tag = none → ∀ before after, cs = before ++ ':' :: after → '/' ∈ after) := by
  by_cases hmem : ':' ∈ cs
  · obtain ⟨path, tag, hcs, hcolon⟩ := Split.exists_last hmem
    by_cases hslash : '/' ∈ tag
    · have hsplit : splitTag cs = (cs, "latest".toList) := by
        rw [splitTag, hcs, Split.last?_append_cons hcolon]
        simp [hslash]
      refine ⟨none, by simp [hsplit], by simp [hsplit], by simp, fun _ before after h => ?_⟩
      -- the last colon is this one or stands behind it
      by_cases hafter : ':' ∈ after
      · obtain ⟨mid, last, rfl, hlast⟩ := Split.exists_last hafter
        have heq : path ++ ':' :: tag = (before ++ ':' :: mid) ++ ':' :: last := by
          rw [← hcs, h]
          simp
        rw [(Split.append_cons_inj hcolon hlast heq).2] at hslash
        simp [hslash]
      · rw [(Split.append_cons_inj hcolon hafter (hcs.symm.trans h)).2] at hslash
        exact hslash
    · have hsplit : splitTag cs = (path, tag) := hcs ▸ splitTag_of_tag hcolon hslash
      exact ⟨some (.ofList tag), by simpa [hsplit] using hcs, by simp [hsplit],
        by simp [hcolon, hslash], by simp⟩
  · have hsplit := splitTag_of_no_colon hmem
    exact ⟨none, by simp [hsplit], by simp [hsplit], by simp,
      fun _ before after h => absurd (h ▸ by simp) hmem⟩

/-! ## The path

A path has at most one slash in it. What stands before the slash is a namespace unless
it looks like a host; what stands after it, or all of it, is the name, of which
nothing is checked. -/

/-- The namespace and the name of a path, if it is one of a stream. -/
def splitPath? (path defaultNs : List Char) : Option (List Char × List Char) :=
  match Split.parts '/' path with
  | [name] => some (defaultNs, name)
  | [ns, name] => if ns.contains '.' || ns.contains ':' then none else some (ns, name)
  | _ => none

theorem splitPath?_path {p : Parts} (h : p.Framed) (defaultNs : String) :
    splitPath? p.path defaultNs.toList = some ((p.ns.getD defaultNs).toList, p.name.toList) := by
  have hname := Split.parts_of_not_mem h.name.2.1
  obtain ⟨_ | ns, name, tag⟩ := p
  · simp [splitPath?, Parts.path, hname]
  · obtain ⟨hword, hdot⟩ := h.ns ns rfl
    simp [splitPath?, Parts.path, Split.parts_append_cons hword.slash, hname, hdot, hword.colon]

/-- **What a path is split into.** -/
theorem exists_of_splitPath? {path ns name : List Char} {defaultNs : String}
    (h : splitPath? path defaultNs.toList = some (ns, name)) :
    '/' ∉ name ∧ ∃ given : Option String, (∀ tag, Parts.path ⟨given, .ofList name, tag⟩ = path) ∧
      ns = (given.getD defaultNs).toList ∧
      ∀ n ∈ given, '/' ∉ n.toList ∧ '.' ∉ n.toList ∧ ':' ∉ n.toList := by
  have hjoin := Split.join_parts '/' path
  have hnot : ∀ part ∈ Split.parts '/' path, '/' ∉ part := fun _ => Split.not_mem_of_mem_parts
  unfold splitPath? at h
  match hparts : Split.parts '/' path with
  | [] => simp [hparts] at h
  | [only] =>
    rw [hparts] at h hjoin hnot
    obtain ⟨rfl, rfl⟩ : defaultNs.toList = ns ∧ only = name := by simpa using h
    exact ⟨hnot only (by simp), none, by simpa [Parts.path, Split.join] using hjoin, rfl, by simp⟩
  | [first, second] =>
    rw [hparts] at h hjoin hnot
    obtain ⟨⟨hdot, hcolon⟩, rfl, rfl⟩ :
        ('.' ∉ first ∧ ':' ∉ first) ∧ first = ns ∧ second = name := by simpa using h
    exact ⟨hnot second (by simp), some (.ofList first),
      by simpa [Parts.path, Split.join] using hjoin, by simp,
      by simp [hnot first (by simp), hdot, hcolon]⟩
  | _ :: _ :: _ :: _ => simp [hparts] at h

/-! ## Reading

The reader is its two splits and a check that nothing is empty. Both directions are
proved by parts: what is written with accepted parts is read as they mean, and
whatever is read was written with accepted parts, which are found by undoing the
splits. Together they say that the reader is a parser of one language, even if not of
the one that is documented. -/

/-- **The reader, by its two splits.** -/
theorem parse?_eq_some_iff {image defaultNs : String} {r : ImageReference} :
    parse? image defaultNs = some r ↔
      image ≠ "" ∧ '@' ∉ image.toList ∧
      ∃ ns name, splitPath? (splitTag image.toList).1 defaultNs.toList = some (ns, name) ∧
        ns ≠ [] ∧ name ≠ [] ∧ (splitTag image.toList).2 ≠ [] ∧
        r = ⟨.ofList ns, .ofList name, .ofList (splitTag image.toList).2⟩ := by
  have hparse : parse? image defaultNs =
      if image.toList.isEmpty || image.toList.contains '@' then none
      else match splitPath? (splitTag image.toList).1 defaultNs.toList with
        | some (ns, name) =>
          if ns.isEmpty || name.isEmpty || (splitTag image.toList).2.isEmpty then none
          else some ⟨.ofList ns, .ofList name, .ofList (splitTag image.toList).2⟩
        | none => none := rfl
  rw [hparse]
  cases splitPath? (splitTag image.toList).1 defaultNs.toList with
  | none => simp
  | some place =>
    obtain ⟨ns, name⟩ := place
    simp only [Bool.or_eq_true, List.isEmpty_iff, List.contains_iff_mem, Option.ite_none_left_eq_some,
      String.toList_eq_nil_iff, Option.some.injEq, Prod.mk.injEq, not_or]
    constructor
    · rintro ⟨⟨hempty, hdigest⟩, ⟨⟨hns, hname⟩, htag⟩, rfl⟩
      exact ⟨hempty, hdigest, ns, name, ⟨rfl, rfl⟩, hns, hname, htag, rfl⟩
    · rintro ⟨hempty, hdigest, _, _, ⟨rfl, rfl⟩, hns, hname, htag, rfl⟩
      exact ⟨⟨hempty, hdigest⟩, ⟨⟨hns, hname⟩, htag⟩, rfl⟩

theorem splitTag_text {p : Parts} (h : p.Accepted) :
    splitTag p.text.toList = (p.path, (p.tag.getD "latest").toList) := by
  obtain ⟨ns, name, _ | tag⟩ := p
  · -- without a tag there is no colon at all
    have hname : ':' ∉ name.toList := fun hc => by simpa using h.tagged hc
    have hpath : ':' ∉ Parts.path ⟨ns, name, none⟩ := by
      cases ns with
      | none => exact hname
      | some ns => simp [Parts.path, (h.ns ns rfl).1.colon, hname]
    rw [Parts.toList_text, Option.map_none, Option.getD_none, List.append_nil]
    exact splitTag_of_no_colon hpath
  · have hword := h.tag tag rfl
    rw [Parts.toList_text]
    exact splitTag_of_tag hword.colon hword.slash

theorem Parts.Framed.text_ne_empty {p : Parts} (h : p.Framed) : p.text ≠ "" := by
  intro htext
  have hnil : p.path = [] := by
    have := Parts.toList_text p
    rw [htext] at this
    exact (List.append_eq_nil_iff.1 this.symm).1
  obtain ⟨_ | ns, name, tag⟩ := p
  · exact h.name.1 (by simpa [Parts.path] using hnil)
  · simp [Parts.path] at hnil

/-- **Accepted parts are read**, and as what they are. -/
theorem parse?_text {p : Parts} (h : p.Accepted) {defaultNs : String} (hns : defaultNs ≠ "") :
    parse? p.text defaultNs = some (p.reference defaultNs) := by
  have hname : p.name.toList ≠ [] := by simpa using h.name.1
  have hplace : p.ns.getD defaultNs ≠ "" := by
    cases hp : p.ns with
    | none => exact hns
    | some ns => exact (h.ns ns hp).1.ne_empty
  have htag : p.tag.getD "latest" ≠ "" := by
    cases hp : p.tag with
    | none => decide
    | some tag => exact (h.tag tag hp).ne_empty
  rw [parse?_eq_some_iff, splitTag_text h]
  refine ⟨h.text_ne_empty, h.digest_not_mem, _, _, splitPath?_path h.toFramed defaultNs, ?_, hname, ?_, ?_⟩
  · simpa using hplace
  · simpa using htag
  · simp [Parts.reference]

/-- **Whatever is read was written with accepted parts.** -/
theorem exists_of_parse? {image defaultNs : String} {r : ImageReference}
    (h : parse? image defaultNs = some r) :
    ∃ p : Parts, p.Accepted ∧ p.text = image ∧ p.reference defaultNs = r := by
  obtain ⟨-, hdigest, ns, name, hplace, hns, hname, hne, rfl⟩ := parse?_eq_some_iff.1 h
  obtain ⟨tag, hcs, htag, hmarks, hcolons⟩ := splitTag_spec image.toList
  obtain ⟨hslash, given, hpath, rfl, hgiven⟩ := exists_of_splitPath? hplace
  have htext : Parts.text ⟨given, .ofList name, tag⟩ = image := by
    rw [← String.toList_inj, Parts.toList_text, hpath tag]
    exact hcs.symm
  obtain ⟨hnsDigest, hnameDigest, htagDigest⟩ :=
    (Parts.digest_not_mem_iff ⟨given, .ofList name, tag⟩).1 (htext ▸ hdigest)
  have hframed : Parts.Framed ⟨given, .ofList name, tag⟩ := by
    refine ⟨?_, ⟨by simpa using hname, by simpa using hslash, hnameDigest⟩, ?_⟩
    · rintro n rfl
      obtain ⟨hnslash, hdot, hncolon⟩ := hgiven n rfl
      exact ⟨⟨by simpa using hns, hnslash, hncolon, hnsDigest n rfl⟩, hdot⟩
    · rintro t rfl
      obtain ⟨htcolon, htslash⟩ := hmarks t rfl
      exact ⟨by simpa [htag] using hne, htslash, htcolon, htagDigest t rfl⟩
  refine ⟨⟨given, .ofList name, tag⟩, ⟨hframed, fun hcolon => ?_⟩, htext, ?_⟩
  · cases tag with
    | some tag => rfl
    | none =>
      -- a colon in the name has no slash behind it
      obtain ⟨before, after, rfl⟩ := List.append_of_mem (by simpa using hcolon : ':' ∈ name)
      obtain ⟨first, hfirst⟩ := Parts.exists_path ⟨given, .ofList (before ++ ':' :: after), none⟩
      have himage : image.toList = (first ++ before) ++ ':' :: after := by
        rw [hcs, ← hpath none, hfirst]
        simp
      exact absurd (hcolons rfl _ _ himage) fun hafter => hslash (by simp [hafter])
  · simp [Parts.reference, htag]

/-- **The reader accepts its accepted parts and nothing else.** -/
theorem parse?_eq_some_iff_accepted {image defaultNs : String} (hns : defaultNs ≠ "")
    {r : ImageReference} :
    parse? image defaultNs = some r ↔
      ∃ p : Parts, p.Accepted ∧ p.text = image ∧ p.reference defaultNs = r := by
  refine ⟨exists_of_parse?, ?_⟩
  rintro ⟨p, hp, rfl, rfl⟩
  exact parse?_text hp hns

/-! ## Where the grammar is left

By counting colons. Of an accepted image the namespace and the tag hold none, so all
but the one before the tag are in the name; an image with two or more has a name that
the grammar does not allow. The condition is one about the text, without mention of
parts, and can be checked by whoever has an image at hand. -/

/-- **An image is read as it is documented**: as what its proper parts mean,
and not at all if it has none. -/
def ReadAsWritten (image defaultNs : String) : Prop :=
  ∀ r, parse? image defaultNs = some r ↔
    ∃ p : Parts, p.Proper ∧ p.text = image ∧ p.reference defaultNs = r

/-- Of the parts of an accepted image only the name holds further colons. -/
theorem Parts.Framed.count_colon {p : Parts} (h : p.Framed) :
    p.text.toList.count ':' = p.name.toList.count ':' + if p.tag.isSome then 1 else 0 := by
  have hpath : p.path.count ':' = p.name.toList.count ':' := by
    obtain ⟨_ | ns, name, tag⟩ := p
    · rfl
    · simp [Parts.path, List.count_eq_zero_of_not_mem (h.ns ns rfl).1.colon]
  rw [Parts.toList_text, List.count_append, hpath]
  cases htag : p.tag with
  | none => simp
  | some tag => simp [List.count_eq_zero_of_not_mem (h.tag tag htag).colon]

/-- Accepted parts are proper if the image does not have two colons. -/
theorem Parts.Accepted.proper_iff {p : Parts} (h : p.Accepted) :
    p.Proper ↔ p.text.toList.count ':' ≤ 1 := by
  rw [h.count_colon]
  constructor
  · intro hp
    rw [List.count_eq_zero_of_not_mem hp.colon]
    split <;> omega
  · refine fun hcount => ⟨h.toFramed, fun hcolon => ?_⟩
    have hpos := List.count_pos_iff.2 hcolon
    rw [if_pos (h.tagged hcolon)] at hcount
    omega

/-- **The grammar is left at images with two colons**, where they are accepted
at all. -/
theorem readAsWritten_iff {image defaultNs : String} (hns : defaultNs ≠ "") :
    ReadAsWritten image defaultNs ↔
      parse? image defaultNs = none ∨ image.toList.count ':' ≤ 1 := by
  constructor
  · intro h
    cases hread : parse? image defaultNs with
    | none => exact .inl rfl
    | some r =>
      obtain ⟨p, hp, rfl, -⟩ := (h r).1 hread
      exact .inr (hp.accepted.proper_iff.1 hp)
  · intro h r
    rw [parse?_eq_some_iff_accepted hns]
    constructor
    · rintro ⟨p, hp, rfl, rfl⟩
      have hcount := h.resolve_left (by simp [parse?_text hp hns])
      exact ⟨p, hp.proper_iff.2 hcount, rfl, rfl⟩
    · rintro ⟨p, hp, rfl, rfl⟩
      exact ⟨p, hp.accepted, rfl, rfl⟩

/-! ## What is never accepted

The other ways to write an image are with a digest, with the host of a registry, and
with a path of several parts. Each of them shows in the text, and the accepted ones
have at most one slash, so what stands before the first slash is either a namespace or
the reason why the image is not accepted. -/

/-- The one slash of an image stands behind its namespace. -/
theorem Parts.Framed.count_slash {p : Parts} (h : p.Framed) :
    p.text.toList.count '/' = if p.ns.isSome then 1 else 0 := by
  have hname := List.count_eq_zero_of_not_mem h.name.2.1
  have hpath : p.path.count '/' = if p.ns.isSome then 1 else 0 := by
    obtain ⟨_ | ns, name, tag⟩ := p
    · exact hname
    · simp [Parts.path, List.count_eq_zero_of_not_mem (h.ns ns rfl).1.slash, hname]
  rw [Parts.toList_text, List.count_append, hpath]
  cases htag : p.tag with
  | none => simp
  | some tag => simp [List.count_eq_zero_of_not_mem (h.tag tag htag).slash]

/-- **What stands before a slash is the namespace.** -/
theorem Parts.Framed.ns_of_text {p : Parts} (h : p.Framed) {host rest : String}
    (htext : p.text = host ++ "/" ++ rest) : p.ns = some host := by
  have hchars : p.text.toList = host.toList ++ '/' :: rest.toList := by simp [htext]
  have hcount := h.count_slash
  cases hns : p.ns with
  | none =>
    rw [hchars, hns] at hcount
    simp at hcount
  | some ns =>
    obtain ⟨last, hlast⟩ : ∃ last, p.text.toList = ns.toList ++ '/' :: last :=
      ⟨_, by rw [toList_text, path, hns, List.append_assoc, List.cons_append]⟩
    -- it is the only slash, whichever way the image is taken apart
    have honly : ∀ before after, p.text.toList = before ++ '/' :: after → '/' ∉ after := by
      intro before after heq
      rw [heq, hns, List.count_append, List.count_cons_self] at hcount
      exact List.count_eq_zero.1 (by simp only [Option.isSome_some, if_true] at hcount; omega)
    have hsame := (Split.append_cons_inj (honly _ _ hlast) (honly _ _ hchars)
      (hlast.symm.trans hchars)).1
    rw [String.toList_inj.1 hsame]

/-- **An image with a digest, with a registry's host or with a longer path
names no stream.** -/
theorem parse?_eq_none_of_registry {image : String} (defaultNs : String)
    (h : '@' ∈ image.toList ∨ 2 ≤ image.toList.count '/' ∨
      ∃ host rest, image = host ++ "/" ++ rest ∧ ('.' ∈ host.toList ∨ ':' ∈ host.toList)) :
    parse? image defaultNs = none := by
  refine Option.eq_none_iff_forall_ne_some.2 fun r hread => ?_
  obtain ⟨p, hp, rfl, -⟩ := exists_of_parse? hread
  rcases h with hdigest | hslashes | ⟨host, rest, htext, hmark⟩
  · exact hp.digest_not_mem hdigest
  · rw [hp.count_slash] at hslashes
    split at hslashes <;> omega
  · obtain ⟨hword, hdot⟩ := hp.ns host (hp.ns_of_text htext)
    exact hmark.elim hdot hword.colon

/-! ## The reader against the grammar

The results are put side by side for one image and one namespace. That something which
looks like a reference is one, and as what it is read, is stated for words, as a
reader of the documentation would try it; the rest is for all texts whatever. -/

/-- **The reader of references, measured by their grammar.** It accepts what
has accepted parts, and reads it as these parts mean; that is the grammar,
except at an accepted image with two colons. -/
theorem parse?_against_grammar {defaultNs : String} (hns : defaultNs ≠ "") (image : String) :
    (∀ r, parse? image defaultNs = some r ↔
      ∃ p : Parts, p.Accepted ∧ p.text = image ∧ p.reference defaultNs = r) ∧
    (ReadAsWritten image defaultNs ↔
      parse? image defaultNs = none ∨ image.toList.count ':' ≤ 1) ∧
    (∀ ns name tag, IsWord ns → '.' ∉ ns.toList → IsWord name → IsWord tag →
      image = ns ++ "/" ++ name ++ ":" ++ tag →
      parse? image defaultNs = some ⟨ns, name, tag⟩) ∧
    ('@' ∈ image.toList ∨ 2 ≤ image.toList.count '/' ∨
      (∃ host rest, image = host ++ "/" ++ rest ∧ ('.' ∈ host.toList ∨ ':' ∈ host.toList)) →
      parse? image defaultNs = none) := by
  refine ⟨fun r => parse?_eq_some_iff_accepted hns, readAsWritten_iff hns, ?_,
    parse?_eq_none_of_registry defaultNs⟩
  rintro ns name tag hword hdot hname htag rfl
  have hproper : Parts.Proper ⟨some ns, name, some tag⟩ :=
    { ns := by rintro _ ⟨⟩; exact ⟨hword, hdot⟩
      name := ⟨hname.ne_empty, hname.slash, hname.digest⟩
      tag := by rintro _ ⟨⟩; exact htag
      colon := hname.colon }
  have htext : Parts.text ⟨some ns, name, some tag⟩ = ns ++ "/" ++ name ++ ":" ++ tag := by
    simp [Parts.text, String.append_assoc]
  rw [← htext]
  exact parse?_text hproper.accepted hns

theorem parse?_against_grammar_of_build :
    "shop" ≠ "" ∧ parse? "builds/frontend:v2" "shop" = some ⟨"builds", "frontend", "v2"⟩ ∧
      ReadAsWritten "builds/frontend:v2" "shop" := by
  have hns : "shop" ≠ "" := by decide
  have h := parse?_against_grammar hns "builds/frontend:v2"
  exact ⟨hns, h.2.2.1 "builds" "frontend" "v2" ⟨by decide, by decide, by decide, by decide⟩
    (by decide) ⟨by decide, by decide, by decide, by decide⟩
    ⟨by decide, by decide, by decide, by decide⟩ (by decide), h.2.1.2 (.inr (by decide))⟩

/-- **A name with a colon is accepted**: here `a:b`, under the tag `c`. -/
theorem not_readAsWritten_of_two_colons : ¬ ReadAsWritten "a:b:c" "shop" := by
  intro h
  have hread : parse? "a:b:c" "shop" = some ⟨"shop", "a:b", "c"⟩ := by decide
  obtain ⟨p, hp, -, href⟩ := (h _).1 hread
  have hname : p.name = "a:b" := congrArg ImageReference.name href
  exact hp.colon (hname ▸ by decide)

end AppOperator.ImageReference
