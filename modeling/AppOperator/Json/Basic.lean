import AppOperator.Data.Dict
import AppOperator.Number.Decimal

/-!
# JSON values

Every object the operator reads from or writes to a cluster travels as a
JSON value. The members of an object are listed by rising name with no name
twice; `Json.object` and `Json.insert` keep that form, so two objects with
the same members are the same value and equality needs no reordering.

A number is either an integer of at most 64 bits or a `Decimal`. The two
kinds never mix: an integer field refuses `3.0`, which is a decimal.
-/

namespace AppOperator

/-- **A JSON value.** -/
inductive Json where
  | null
  | bool (value : Bool)
  | int (value : Int)
  | real (value : Decimal)
  | str (value : String)
  | arr (items : List Json)
  | obj (members : List (String × Json))
deriving Inhabited

namespace Json

/-! ## Equality

Equality is decided by a function on values and lists of them at once, as values have
lists of values in them, and is then shown to be equality. -/

mutual
/-- Whether two values are the same. -/
def same : Json → Json → Bool
  | null, null => true
  | bool a, bool b => a == b
  | int a, int b => a == b
  | real a, real b => decide (a = b)
  | str a, str b => a == b
  | arr xs, arr ys => sameItems xs ys
  | obj ms, obj ns => sameMembers ms ns
  | _, _ => false
/-- Whether two lists hold the same values in the same order. -/
def sameItems : List Json → List Json → Bool
  | [], [] => true
  | x :: xs, y :: ys => same x y && sameItems xs ys
  | _, _ => false
/-- Whether two listings hold the same members in the same order. -/
def sameMembers : List (String × Json) → List (String × Json) → Bool
  | [], [] => true
  | (j, x) :: xs, (k, y) :: ys => j == k && same x y && sameMembers xs ys
  | _, _ => false
end

mutual
theorem same_iff : ∀ a b : Json, same a b = true ↔ a = b
  | .null, b => by cases b <;> simp [same]
  | .bool _, b => by cases b <;> simp [same]
  | .int _, b => by cases b <;> simp [same]
  | .real _, b => by cases b <;> simp [same]
  | .str _, b => by cases b <;> simp [same]
  | .arr xs, b => by cases b <;> simp [same, sameItems_iff xs]
  | .obj ms, b => by cases b <;> simp [same, sameMembers_iff ms]
theorem sameItems_iff : ∀ xs ys : List Json, sameItems xs ys = true ↔ xs = ys
  | [], ys => by cases ys <;> simp [sameItems]
  | x :: xs, ys => by cases ys <;> simp [sameItems, same_iff x, sameItems_iff xs]
theorem sameMembers_iff : ∀ xs ys : List (String × Json), sameMembers xs ys = true ↔ xs = ys
  | [], ys => by cases ys <;> simp [sameMembers]
  | (j, x) :: xs, ys => by
    cases ys with
    | nil => simp [sameMembers]
    | cons q ys => obtain ⟨k, y⟩ := q; simp [sameMembers, same_iff x, sameMembers_iff xs]
end

instance : DecidableEq Json := fun a b => decidable_of_iff _ (same_iff a b)

/-! ## Members

Look-ups are total: what is no object has no members, and asking it for one gives
nothing. Changing a member of what is no object gives an object. -/

/-- The object with these members; of two with one name the later stands. -/
def object (members : List (String × Json)) : Json := .obj (Assoc.ofList members)

/-- The members of an object; anything else has none. -/
def members : Json → List (String × Json)
  | .obj ms => ms
  | _ => []

/-- The value of a member. -/
def get? (j : Json) (name : String) : Option Json := Assoc.get? name j.members

/-- The value of a member when it is a text. -/
def text? (j : Json) (name : String) : Option String :=
  match j.get? name with
  | some (.str s) => some s
  | _ => none

/-- Sets a member; a value that is no object becomes one. -/
def insert (j : Json) (name : String) (value : Json) : Json :=
  .obj (Assoc.insert name value j.members)

theorem get?_insert (j : Json) (name other : String) (value : Json) :
    (j.insert name value).get? other = if other = name then some value else j.get? other :=
  Assoc.get?_insert name other value j.members

/-- An optional text, absence written as `null`. -/
def ofOption : Option String → Json
  | some s => .str s
  | none => .null

/-! ## Places

A place is a path of steps: a member's name, or an item's position written
in digits without a leading zero. -/

/-- The position that a step stands for. -/
def position? (step : String) : Option Nat :=
  let digits := step.toList
  if digits.isEmpty || !digits.all Char.isDigit || (digits.length > 1 && digits.head? = some '0')
  then none
  else some (digits.foldl (fun n c => n * 10 + (c.toNat - '0'.toNat)) 0)

/-- The value one step inside. -/
def child? : Json → String → Option Json
  | .obj ms, step => Assoc.get? step ms
  | .arr items, step => (position? step).bind (items[·]?)
  | _, _ => none

/-- The value at the end of a path. -/
def at? (j : Json) (path : List String) : Option Json :=
  path.foldlM child? j

/-- The integers that fit 64 bits, signed or unsigned. -/
def IsWord (n : Int) : Prop := -0x8000000000000000 ≤ n ∧ n < 0x10000000000000000

instance : DecidablePred IsWord := fun _ => inferInstanceAs (Decidable (_ ∧ _))

end Json
end AppOperator
