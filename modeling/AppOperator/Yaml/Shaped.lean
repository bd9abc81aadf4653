import AppOperator.Shape.Shaped
import AppOperator.Yaml.Scalar

/-!
# Reading shaped values from YAML

A node is read as a value of a shape. The shape decides what a scalar stands
for: any scalar is a text where a text is asked for, and none is one where an
integer is. Only where anything may stand does the form of the scalar decide.

References are followed where they are read, so a node that nothing asks for
may well refer to itself. Following them is bounded, as is the depth of what
is read.
-/

namespace AppOperator.Yaml

/-- **A reading of nodes**: it may fail, and counts down the references it may follow. -/
abbrev Reading := StateT Nat Option

/-- The failure of a reading. -/
def unfit {α : Type} : Reading α := StateT.lift none

/-- What must be there. -/
def the {α : Type} (a : Option α) : Reading α := StateT.lift a

/-- The node itself, or the node that it stands for. -/
def Document.resolve (doc : Document) : Node → Reading Node
  | .reference anchor => do
    match ← get with
    | 0 => unfit
    | left + 1 => do
      set left
      the (doc.anchors anchor)
  | n => return n

/-- The text of a scalar. -/
def Document.text (doc : Document) (n : Node) : Reading String := do
  match ← doc.resolve n with
  | .scalar _ _ text => return text
  | _ => unfit

/-- Whether a tag is one of the writer's own. -/
def isOwnTag (tag : Option String) : Bool := tag.any (·.startsWith "!")

/-- Whether a node was left out. -/
def isLeftOut : Node → Bool
  | .scalar _ .plain "" => true
  | _ => false

/-- The text of a scalar that may stand for something other than itself. -/
def literalText? (kind : String) : Node → Option String
  | .scalar _ .plain text => some text
  | .scalar (some tag) .literal text =>
    if tag = "tag:yaml.org,2002:" ++ kind then some text else none
  | _ => none

/-- What a scalar stands for where anything may stand. -/
def scalarValue? (tag : Option String) (style : ScalarStyle) (text : String) : Option Json :=
  match tag with
  | some "tag:yaml.org,2002:bool" => (bool? text).map .bool
  | some "tag:yaml.org,2002:int" => do
    let n ← int? text
    if Json.IsWord n then some (.int n) else none
  | some "tag:yaml.org,2002:float" => (real? text).map fun d => (d.map Json.real).getD .null
  | some "tag:yaml.org,2002:null" => if isNull text then some .null else none
  | some _ => if isOwnTag tag then none else some (.str text)
  | none => if style = .plain then plainValue? text else some (.str text)

/-- **Reads a node where anything may stand.** A key is a text, either any
scalar's or only that of a scalar that stands for a text. -/
def Document.any (doc : Document) (anyKey : Bool) : (depth : Nat) → Node → Reading Json
  | depth, n => do
    match ← doc.resolve n with
    | .scalar tag style text => the (scalarValue? tag style text)
    | .list tag items =>
      match depth with
      | 0 => unfit
      | depth + 1 =>
        if isOwnTag tag then unfit
        return .arr (← items.mapM (doc.any anyKey depth))
    | .map tag entries =>
      match depth with
      | 0 => unfit
      | depth + 1 =>
        if isOwnTag tag then unfit
        let members ← entries.mapM fun (k, v) => do
          let key ← if anyKey then doc.text k else do
            match ← doc.resolve k with
            | .scalar tag style text =>
              match scalarValue? tag style text with
              | some (.str key) => pure key
              | _ => unfit
            | _ => unfit
          return (key, ← doc.any anyKey depth v)
        return Json.object members
    | .reference _ => unfit

/-- The entries of a map by the texts of their keys; a node left out has none. -/
def Document.entries (doc : Document) (n : Node) : Reading (List (String × Node)) := do
  match ← doc.resolve n with
  | .map _ entries => entries.mapM fun (k, v) => return (← doc.text k, v)
  | n => if isLeftOut n then return [] else unfit

/-- The items of a list; a node left out has none. -/
def Document.items (doc : Document) (n : Node) : Reading (List Node) := do
  match ← doc.resolve n with
  | .list _ items => return items
  | n => if isLeftOut n then return [] else unfit

/-- Whether a node unsets an optional field. -/
def unsets? : Node → Option Bool
  | .scalar none .plain text => some (text.isEmpty || isNull text)
  | .scalar (some "tag:yaml.org,2002:null") .plain text => if isNull text then some true else none
  | _ => some false

/-- The word chosen: the text of a scalar, or a tag of the writer's own on nothing. -/
def chosenWord? : Node → Option String
  | .scalar (some tag) style text =>
    if !isOwnTag (some tag) then some text
    else if style = .plain && (text.isEmpty || isNull text) then
      some (if tag = "!" then "!" else String.ofList (tag.toList.drop 1))
    else none
  | .scalar none _ text => some text
  | _ => none

/-- Whether the entries may be read as those of an object with this header. -/
def Document.admits (doc : Document) (style : Style) (entries : List (String × Node)) :
    Reading Unit :=
  let mustBe (v : Node) (word : String) : Reading Unit := do
    if (← doc.text v) ≠ word then unfit
  match style.header with
  | some h =>
    if h.checked then
      entries.forM fun (key, v) =>
        if key = "apiVersion" then mustBe v h.apiVersion
        else if key = "kind" then mustBe v h.kind
        else return
    else return
  | none => return

/-- The nodes given for a field. -/
def given (name : String) (entries : List (String × Node)) : List Node :=
  (entries.filter (·.1 = name)).map Prod.snd

mutual
/-- **Reads a node as a value of a shape.** -/
def shaped (doc : Document) : (depth : Nat) → (s : Shape) → Node → Reading s.Val
  | _, .text, n => doc.text n
  | _, .flag, n => do the ((literalText? "bool" (← doc.resolve n)).bind bool?)
  | _, .int32, n => do the (((literalText? "int" (← doc.resolve n)).bind int?).bind int32?)
  | _, .int64, n => do the (((literalText? "int" (← doc.resolve n)).bind int?).bind int64?)
  | _, .bytes, n => do the (Base64.decode? (← doc.text n))
  | _, .timestamp, n => do the (Timestamp.parse? (← doc.text n))
  | _, .instant, n => do the (Instant.parse? (← doc.text n))
  | depth, .intOrText, n => do
    match ← doc.any true depth n with
    | .int n => return .int (← the (int32? n))
    | .str t => return .text t
    | _ => unfit
  | depth, .json, n => do
    let j ← doc.any true depth n
    if h : j ≠ .null then return ⟨j, h⟩ else unfit
  | _, .choice first others, n => do
    the ((chosenWord? (← doc.resolve n)).bind (wordIndex? first others))
  | depth + 1, .list item, n => do (← doc.items n).mapM (shaped doc depth item)
  | depth + 1, .map value, n => do
    let pairs ← (← doc.entries n).mapM fun (k, v) => return (k, ← shaped doc depth value v)
    return Dict.ofList pairs
  | depth + 1, .record style fields, n => do
    let entries ← doc.entries n
    doc.admits style entries
    shapedFields doc depth style.once fields entries
  | 0, _, _ => unfit
/-- Reads the fields of a table from the entries of a map. A field given
several times has the last of its values, unless that is refused. -/
def shapedFields (doc : Document) :
    (depth : Nat) → (once : Bool) → (t : Table) → List (String × Node) → Reading t.Val
  | _, _, .done, _ => return ()
  | depth, _, .extras taken, entries => do
    let extra := entries.filter fun (k, _) => !taken.contains k
    let members ← extra.mapM fun (k, v) => return (k, ← doc.any false depth v)
    return Extras.ofMembers taken members
  | depth, once, .optional name shape rest, entries => do
    let nodes := given name entries
    if once && 1 < nodes.length then unfit
    let values ← nodes.mapM fun n => do
      let n ← doc.resolve n
      if ← the (unsets? n) then return none else return some (← shaped doc depth shape n)
    return (values.getLast?.getD none, ← shapedFields doc depth once rest entries)
  | depth, once, .always absence name shape rest, entries => do
    let nodes := given name entries
    if once && 1 < nodes.length then unfit
    let values ← nodes.mapM fun n => do
      let n ← doc.resolve n
      if absence = .lenient then
        if ← the (unsets? n) then return shape.zero
      shaped doc depth shape n
    let value ← match values.getLast?, absence with
      | some v, _ => pure v
      | none, .refused => unfit
      | none, _ => pure shape.zero
    return (value, ← shapedFields doc depth once rest entries)
end

/-- The levels of lists and maps that are read. -/
def maxDepth : Nat := 128

/-- **Reads a text as a value of a shape.** -/
def read? (s : Shape) (text : String) : Option s.Val := do
  let doc ← Document.parse? text
  (shaped doc maxDepth s doc.root).run' (doc.root.size * 100)

end AppOperator.Yaml

namespace AppOperator

/-- **Reads an element from YAML.** -/
def decodeYaml (α : Type) [Shaped α] (text : String) : Option α :=
  (Yaml.read? (shapeOf α) text).map ofVal

end AppOperator
