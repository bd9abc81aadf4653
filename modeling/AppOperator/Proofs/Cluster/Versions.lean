import AppOperator.Proofs.Cluster.Access

/-!
# Secrets with versions

A cluster gives what it stores a new version with each write, and it refuses to
replace an object by one that was made from another version than the stored one.
That is all the protection there is between operations that are under way at the
same time: a removal is not tied to a version.

The store of this module keeps secrets in this way. What it comes to for one that
has read a secret is that the secret read *is* the stored one as long as the
versions agree (`VersionedStore.Knows`), however many writes there were in
between.

It answers calls as the cluster of the other modules does, except that it minds
versions and keeps secrets alone, since these are what applications share. Whatever
else a call asks of it is refused.
-/

namespace AppOperator

/-! ## Versions

A version is a text in the metadata, among the fields that the operator does not look
at, and it is carried along wherever metadata are kept. How versions are named is not
said here; all that is used is that no name is used twice. -/

namespace ObjectMeta

/-- The version, which the cluster changes with each write. -/
def resourceVersion (m : ObjectMeta) : Option String := m.other.2.2.2.2.2.1

/-- The metadata with another version. -/
def withVersion (m : ObjectMeta) (version : String) : ObjectMeta :=
  let (created, grace, deleted, finalizers, fields, _, rest) := m.other
  { m with other := (created, grace, deleted, finalizers, fields, some version, rest) }

end ObjectMeta

namespace Secret

/-- The version of a secret. -/
def version (a : Secret) : Option String := a.metadata.resourceVersion

/-- The secret in another version. -/
def atVersion (a : Secret) (version : String) : Secret :=
  { a with metadata := a.metadata.withVersion version }

end Secret

/-- **A way to name versions**, of which no name is used twice. -/
structure Versioning where
  /-- The name of the version that a write makes, by the number of the write. -/
  name : Nat → String
  /-- Each write makes a version of its own. -/
  fresh : Function.Injective name

/-- Versions that are named by their numbers. -/
def Versioning.decimal : Versioning where
  name := Nat.repr
  fresh := Function.LeftInverse.injective (g := fun text => Nat.ofDigitChars 10 text.toList 0)
    fun n => by
      show Nat.ofDigitChars 10 n.repr.toList 0 = n
      rw [Nat.repr_eq_ofList_toDigits, String.toList_ofList, Nat.ofDigitChars_ten_toDigits]

/-! ## The store

The store answers calls like a cluster that keeps nothing but secrets, with two
additions: each write makes a new version, and a replacement is refused unless it
bears the version that is stored. That every stored secret is in the version of some
write is a field of the structure, so no store without it can be made, and no lemma
has to ask for it. -/

/-- **Secrets as a cluster keeps them**, each in the version of its last write. -/
structure VersionedStore (V : Versioning) where
  /-- The secrets. -/
  secrets : Dict ObjectKey Secret := .empty
  /-- The number of writes so far. -/
  writes : Nat := 0
  /-- Each secret is in the version of a write. -/
  dated : ∀ key a, secrets.get? key = some a → ∃ n < writes, a.version = some (V.name n) := by
    exact fun _ _ h => nomatch h

namespace VersionedStore

variable {V : Versioning} (s : VersionedStore V)

/-- The store after a secret was written. -/
def put (key : ObjectKey) (a : Secret) : VersionedStore V where
  secrets := s.secrets.insert key (a.atVersion (V.name s.writes))
  writes := s.writes + 1
  dated other b h := by
    rw [Dict.get?_insert] at h
    split at h
    · obtain rfl := Option.some.inj h
      exact ⟨s.writes, Nat.lt_succ_self _, rfl⟩
    · obtain ⟨n, hn, hversion⟩ := s.dated other b h
      exact ⟨n, Nat.lt_succ_of_lt hn, hversion⟩

/-- The store after a secret was removed. -/
def erase (key : ObjectKey) : VersionedStore V where
  secrets := s.secrets.erase key
  writes := s.writes
  dated other b h := by
    rw [Dict.get?_erase] at h
    split at h
    · simp at h
    · exact s.dated other b h

/-- The refusal of an object that is no secret. -/
def malformed : Refusal :=
  { status := "Failure", message := "not a secret", reason := "Invalid", code := 422 }

/-- The refusal to replace an object by one made from another version. -/
def outdated (name : String) : Refusal :=
  { status := "Failure", message := name ++ " has been modified", reason := "Conflict", code := 409 }

/-- Reads a secret. -/
def read (key : ObjectKey) : Except Refusal Json :=
  match s.secrets.get? key with
  | some a => .ok (encode a)
  | none => .error (Server.absent key.name)

/-- Makes a secret where there is none. -/
def create (key : ObjectKey) (object : Json) : Except Refusal (VersionedStore V) :=
  match s.secrets.get? key, decode Secret object with
  | some _, _ => .error (Server.taken key.name)
  | none, some a => .ok (s.put key a)
  | none, none => .error malformed

/-- Replaces a secret by one that bears its version. -/
def replace (key : ObjectKey) (object : Json) : Except Refusal (VersionedStore V) :=
  match s.secrets.get? key, decode Secret object with
  | some old, some a =>
    if a.version = old.version then .ok (s.put key a) else .error (outdated key.name)
  | some _, none => .error malformed
  | none, _ => .error (Server.absent key.name)

/-- Removes a secret, in whichever version it is. -/
def remove (key : ObjectKey) : Except Refusal (VersionedStore V) :=
  match s.secrets.get? key with
  | some _ => .ok (s.erase key)
  | none => .error (Server.absent key.name)

/-- What a write leaves: the store it comes to, or the store as it was. -/
def afterwards : Except Refusal (VersionedStore V) → Except Refusal Unit × VersionedStore V
  | .ok s' => (.ok (), s')
  | .error r => (.error r, s)

/-- **The answer to a call** and the store after it. It may be refused for a
reason outside, and of anything but secrets nothing is known here. -/
def perform (refusal : Option Refusal) (c : Call) : Except Refusal c.Reply × VersionedStore V :=
  match refusal, c with
  | some r, _ => (.error r, s)
  | none, .get key => (s.read key, s)
  | none, .create key object => s.afterwards (s.create key object)
  | none, .replace key object => s.afterwards (s.replace key object)
  | none, .delete key => s.afterwards (s.remove key)
  | none, .patchStatus key _ => (.error (Server.absent key.name), s)
  | none, .discover apiVersion => (.error (Server.absent apiVersion), s)

/-! ## What an answer says

Each kind of call is refused, and then nothing has changed, or it is accepted on the
grounds that are stated. The lemmas are in the form in which an interleaving uses
them: for any refusal from outside or none. -/

variable {s} {s' : VersionedStore V} {key : ObjectKey} {object : Json} {a : Secret}

/-- A secret is read as it is stored. -/
theorem read_ok {j : Json} (h : s.read key = .ok j) :
    ∃ a, s.secrets.get? key = some a ∧ j = encode a := by
  unfold read at h
  split at h
  · rename_i a ha
    exact ⟨a, ha, (Except.ok.inj h).symm⟩
  · simp at h

/-- A secret is only made where there is none. -/
theorem create_ok (h : s.create key (encode a) = .ok s') :
    s.secrets.get? key = none ∧ s' = s.put key a := by
  unfold create at h
  rw [decode_encode] at h
  split at h
  · simp at h
  · rename_i b hnone hb
    obtain rfl := Option.some.inj hb
    exact ⟨hnone, (Except.ok.inj h).symm⟩
  · simp at h

/-- A secret is only replaced by one that bears its version. -/
theorem replace_ok (h : s.replace key (encode a) = .ok s') :
    ∃ old, s.secrets.get? key = some old ∧ a.version = old.version ∧ s' = s.put key a := by
  unfold replace at h
  rw [decode_encode] at h
  split at h
  · rename_i old b hold hb
    obtain rfl := Option.some.inj hb
    split at h
    · rename_i hversion
      exact ⟨old, hold, hversion, (Except.ok.inj h).symm⟩
    · simp at h
  · simp at h
  · simp at h

theorem remove_ok (h : s.remove key = .ok s') : s' = s.erase key := by
  unfold remove at h
  split at h
  · exact (Except.ok.inj h).symm
  · simp at h

theorem afterwards_cases (outcome : Except Refusal (VersionedStore V)) :
    (∃ r, s.afterwards outcome = (.error r, s))
      ∨ ∃ s', outcome = .ok s' ∧ s.afterwards outcome = (.ok (), s') := by
  cases outcome with
  | error r => exact .inl ⟨r, rfl⟩
  | ok s' => exact .inr ⟨s', rfl, rfl⟩

section Perform

variable (s) (refusal : Option Refusal) (key : ObjectKey) (a : Secret)

/-- **To read a secret** changes nothing, and what is read is stored. -/
theorem perform_get : ∃ reply, s.perform refusal (.get key) = (reply, s)
    ∧ ∀ j, reply = .ok j → ∃ a, s.secrets.get? key = some a ∧ j = encode a := by
  cases refusal with
  | some r => exact ⟨_, rfl, fun j h => nomatch h⟩
  | none => exact ⟨_, rfl, fun j h => read_ok h⟩

/-- **To create a secret** is refused and changes nothing, or there was none. -/
theorem perform_create : (∃ r, s.perform refusal (.create key (encode a)) = (.error r, s))
    ∨ s.secrets.get? key = none
      ∧ s.perform refusal (.create key (encode a)) = (.ok (), s.put key a) := by
  cases refusal with
  | some r => exact .inl ⟨r, rfl⟩
  | none =>
    refine (afterwards_cases (s.create key (encode a))).imp id ?_
    rintro ⟨s', hok, h⟩
    obtain ⟨hnone, rfl⟩ := create_ok hok
    exact ⟨hnone, h⟩

/-- **To replace a secret** is refused and changes nothing, or the new one bears
the version of the stored one. -/
theorem perform_replace : (∃ r, s.perform refusal (.replace key (encode a)) = (.error r, s))
    ∨ ∃ old, s.secrets.get? key = some old ∧ a.version = old.version
      ∧ s.perform refusal (.replace key (encode a)) = (.ok (), s.put key a) := by
  cases refusal with
  | some r => exact .inl ⟨r, rfl⟩
  | none =>
    refine (afterwards_cases (s.replace key (encode a))).imp id ?_
    rintro ⟨s', hok, h⟩
    obtain ⟨old, hold, hversion, rfl⟩ := replace_ok hok
    exact ⟨old, hold, hversion, h⟩

/-- **To remove a secret** is refused and changes nothing, or the secret is gone. -/
theorem perform_delete : (∃ r, s.perform refusal (.delete key) = (.error r, s))
    ∨ s.perform refusal (.delete key) = (.ok (), s.erase key) := by
  cases refusal with
  | some r => exact .inl ⟨r, rfl⟩
  | none =>
    refine (afterwards_cases (s.remove key)).imp id ?_
    rintro ⟨s', hok, h⟩
    obtain rfl := remove_ok hok
    exact h

end Perform

@[simp] theorem get?_put : (s.put key a).secrets.get? key = some (a.atVersion (V.name s.writes)) :=
  Dict.get?_insert_self ..

@[simp] theorem get?_erase : (s.erase key).secrets.get? key = none := by
  show (s.secrets.erase key).get? key = none
  rw [Dict.get?_erase, if_pos rfl]

/-! ## What one knows who has read

What was read may be out of date at any time, and one who has read it cannot tell.
What remains true is a conditional: if the version that is stored is still the one
that was read, so is all the rest. It is kept by every write and every removal, and it
is just what is needed at the moment when a replacement is accepted. -/

variable (s) in
/-- **What is known of a secret that was read**: it is the stored one as long as
the versions agree. -/
def Knows (key : ObjectKey) (a : Secret) : Prop :=
  (∃ n < s.writes, a.version = some (V.name n))
    ∧ ∀ b, s.secrets.get? key = some b → b.version = a.version → b = a

/-- What is stored is known. -/
theorem knows_of_stored (h : s.secrets.get? key = some a) : s.Knows key a := by
  refine ⟨s.dated key a h, fun b hb _ => ?_⟩
  rw [h] at hb
  exact (Option.some.inj hb).symm

/-- **A write does not mislead**, since it makes a version that none has read. -/
theorem Knows.put (h : s.Knows key a) (b : Secret) : (s.put key b).Knows key a := by
  obtain ⟨⟨n, hn, hversion⟩, -⟩ := h
  refine ⟨⟨n, Nat.lt_succ_of_lt hn, hversion⟩, fun c hc he => ?_⟩
  rw [get?_put] at hc
  obtain rfl := Option.some.inj hc
  have hname : V.name s.writes = V.name n := Option.some.inj (he.trans hversion)
  exact absurd (V.fresh hname) (Nat.ne_of_gt hn)

theorem Knows.erase (h : s.Knows key a) : (s.erase key).Knows key a := by
  refine ⟨h.1, fun b hb _ => ?_⟩
  rw [get?_erase] at hb
  simp at hb

end VersionedStore
end AppOperator
