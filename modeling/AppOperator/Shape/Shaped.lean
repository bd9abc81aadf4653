import AppOperator.Shape.Codec

/-!
# Types with a shape

A type is `Shaped` when its elements are the values of a shape under another
name: reading, writing and comparing go through the shape, and the two
directions are inverse, so nothing said of the values of the shape is lost
on the type.

With two inverse directions a type has no values that its shape does not have and
misses none. Laws of reading and writing are therefore proved once for shapes, by
induction on them, and hold of every type that has one.
-/

namespace AppOperator

/-- **A type whose elements are the values of a shape.** -/
class Shaped (α : Type) where
  /-- The shape. -/
  shape : Shape
  /-- The element that a value stands for. -/
  ofVal : shape.Val → α
  /-- The value of an element. -/
  toVal : α → shape.Val
  ofVal_toVal : ∀ a, ofVal (toVal a) = a
  toVal_ofVal : ∀ v, toVal (ofVal v) = v

export Shaped (ofVal toVal)

attribute [simp] Shaped.ofVal_toVal Shaped.toVal_ofVal

/-- One of the words of a choice by its number. -/
def choiceOf (last n : Nat) : Fin (last + 1) :=
  if h : n ≤ last then ⟨n, Nat.lt_succ_of_le h⟩ else ⟨0, Nat.succ_pos last⟩

/-- The shape of a type. -/
abbrev shapeOf (α : Type) [Shaped α] : Shape := Shaped.shape α

variable {α : Type} [Shaped α]

/-- **Reads an element from JSON.** -/
def decode (α : Type) [Shaped α] (j : Json) : Option α :=
  ((shapeOf α).decode j).map ofVal

/-- **Writes an element as JSON.** -/
def encode (a : α) : Json := (shapeOf α).encode (toVal a)

/-- The element with nothing set. -/
def blank (α : Type) [Shaped α] : α := ofVal (shapeOf α).zero

/-- The elements that a list of values stands for. -/
def ofVals (vs : List (shapeOf α).Val) : List α := vs.map ofVal

/-- The values of a list of elements. -/
def toVals (xs : List α) : List (shapeOf α).Val := xs.map toVal

@[simp] theorem ofVals_toVals (xs : List α) : ofVals (toVals xs) = xs := by
  simp [ofVals, toVals, Function.comp_def]

@[simp] theorem toVals_ofVals (vs : List (shapeOf α).Val) : toVals (α := α) (ofVals vs) = vs := by
  simp [ofVals, toVals, Function.comp_def]

@[simp] theorem ofVals_comp_toVals : (ofVals ∘ toVals : List α → List α) = id :=
  funext ofVals_toVals

@[simp] theorem toVals_comp_ofVals :
    (toVals (α := α) ∘ ofVals : List (shapeOf α).Val → List (shapeOf α).Val) = id :=
  funext toVals_ofVals

@[simp] theorem ofVal_comp_toVal : (ofVal ∘ toVal : α → α) = id :=
  funext Shaped.ofVal_toVal

@[simp] theorem toVal_comp_ofVal :
    (toVal (α := α) ∘ ofVal : (shapeOf α).Val → (shapeOf α).Val) = id :=
  funext Shaped.toVal_ofVal

end AppOperator
