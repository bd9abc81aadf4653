import AppOperator.Json.Basic
import AppOperator.Text.Split

/-!
# Pointers into JSON values

A pointer is a place written as one text: each step follows a slash, and a
slash or a tilde in a step is written as a tilde and a digit. Definitions of
types and other large values are looked into by pointers, for which they are
short and can be told in a message.

Every path of steps can be written, whatever stands in them, and is read as
the path that it is (`pointerSteps?_pointer`). So what holds of the values at
paths is said of pointers at once (`pointedAt?_pointer`).
-/

namespace AppOperator.Json

/-! ## Steps

The tilde is written as `~0` and the slash as `~1`, so the order in which both are
undone matters: a step is read from left to right, one mark at a time. -/

/-- A step as it is written. -/
def escapeStep : List Char → List Char
  | [] => []
  | c :: rest =>
    if c = '~' then '~' :: '0' :: escapeStep rest
    else if c = '/' then '~' :: '1' :: escapeStep rest
    else c :: escapeStep rest

/-- A written step as it is meant. -/
def unescapeStep : List Char → List Char
  | '~' :: '1' :: rest => '/' :: unescapeStep rest
  | '~' :: '0' :: rest => '~' :: unescapeStep rest
  | c :: rest => c :: unescapeStep rest
  | [] => []

/-- Reading a step undoes writing it. -/
theorem unescapeStep_escapeStep (step : List Char) : unescapeStep (escapeStep step) = step := by
  induction step with
  | nil => rfl
  | cons c rest ih =>
    rw [escapeStep]
    split
    · next h => simp [unescapeStep, ih, h]
    · next h =>
      split
      · next h => simp [unescapeStep, ih, h]
      · rw [unescapeStep, ih] <;> intro _ hc <;> exact absurd hc h

/-- A written step has no slash, by which it is told from the next. -/
theorem slash_notMem_escapeStep (step : List Char) : '/' ∉ escapeStep step := by
  induction step with
  | nil => exact List.not_mem_nil
  | cons c rest ih =>
    rw [escapeStep]
    split
    · simpa using ih
    · split
      · simpa using ih
      · rename_i h
        simpa using ⟨Ne.symm h, ih⟩

/-! ## Pointers

The pointer to a value itself is empty. Any other begins with a slash, and what does
not is no pointer. -/

/-- The characters of a pointer to the end of a path. -/
def writeSteps (path : List String) : List Char :=
  path.flatMap fun step => '/' :: escapeStep step.toList

/-- **The pointer to the end of a path.** -/
def pointer (path : List String) : String := .ofList (writeSteps path)

/-- **The steps of a pointer.** -/
def pointerSteps? (pointer : String) : Option (List String) :=
  match pointer.toList with
  | [] => some []
  | '/' :: rest => some ((Split.parts '/' rest).map fun step => String.ofList (unescapeStep step))
  | _ => none

/-- **The value that a pointer points to.** -/
def pointedAt? (j : Json) (pointer : String) : Option Json :=
  (pointerSteps? pointer).bind j.at?

/-- The slashes of a pointer are where its steps begin. -/
theorem parts_writeSteps (step : String) (path : List String) :
    Split.parts '/' (escapeStep step.toList ++ writeSteps path)
      = (step :: path).map fun step => escapeStep step.toList := by
  induction path generalizing step with
  | nil =>
    rw [writeSteps, List.flatMap_nil, List.append_nil]
    exact Split.parts_of_not_mem (slash_notMem_escapeStep _)
  | cons next path ih =>
    rw [List.map_cons, ← ih next]
    exact Split.parts_append_cons (slash_notMem_escapeStep _) _

/-- **A path is read as it is written.** -/
theorem pointerSteps?_pointer (path : List String) : pointerSteps? (pointer path) = some path := by
  unfold pointerSteps? pointer
  rw [String.toList_ofList]
  cases path with
  | nil => rfl
  | cons step path =>
    show some ((Split.parts '/' (escapeStep step.toList ++ writeSteps path)).map _) = _
    rw [parts_writeSteps, List.map_map]
    refine congrArg some (List.map_id'' (fun step => ?_) _)
    show String.ofList (unescapeStep (escapeStep step.toList)) = step
    rw [unescapeStep_escapeStep, String.ofList_toList]

/-- **A pointer points to the end of its path.** -/
theorem pointedAt?_pointer (j : Json) (path : List String) :
    j.pointedAt? (pointer path) = j.at? path := by
  rw [pointedAt?, pointerSteps?_pointer, Option.bind_some]

end AppOperator.Json
