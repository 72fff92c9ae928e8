import ReorgGuard.Yaml.Node
import ReorgGuard.Yaml.Scalar

/-!
A YAML document read as a value.

A node is given a value once, however often it is named.  Scalars have their value at once;
collections are filled later, outer ones before inner ones, so that a collection may lie inside
itself.  The entries of mappings under the merge mark come first, so that a mapping's own entries
go before them.
-/

namespace ReorgGuard.Yaml

/-- What stands for a node inside a collection: a value, or a collection by its number. -/
inductive Part where
  | value (value : Value)
  | collection (id : NodeId)

inductive Filling where
  | list (items : List Part)
  | pairs (items : List (Part × Part))
  | set (items : List Value)
  | dict (entries : List (Value × Part))

structure Building where
  nodes : Array Node
  /-- What stands for each node that was met so far. -/
  parts : Array (Option Part)
  /-- Collections that wait to be filled, last one first. -/
  waiting : List NodeId
  fillings : List (NodeId × Filling)

abbrev Builds := StateT Building (Except Fault)

def malformed {α : Type} : Builds α := throw .malformed

def nodeAt (id : NodeId) : Builds Node := do
  return (← get).nodes.getD id default

def entriesAt (id : NodeId) : Builds (List (NodeId × NodeId)) := do
  match (← nodeAt id).content with
  | .mapping entries => return entries
  | _ => malformed

def itemsAt (id : NodeId) : Builds (List NodeId) := do
  match (← nodeAt id).content with
  | .sequence items => return items
  | _ => malformed

def change (id : NodeId) (f : Node → Node) : Builds Unit :=
  modify fun b => { b with nodes := b.nodes.modify id f }

/-- The number of steps after which merging gives up. -/
def mergeLimit : Nat := 1000000

mutual

/-- Replaces the entries under merge marks, from a place on, by what they merge; the entries merged so far
are given. -/
def flattenFrom (fuel : Nat) (id : NodeId) (index : Nat) (merged : List (NodeId × NodeId)) : Builds Unit :=
  match fuel with
  | 0 => throw (.broken .tooDeep)
  | fuel + 1 => do
      let entries ← entriesAt id
      match entries[index]? with
      | none => change id fun node => { node with content := .mapping (merged ++ entries) }
      | some (key, value) =>
          match (← nodeAt key).meaning with
          | .merge => do
              change id fun node => { node with content := .mapping (entries.eraseIdx index) }
              let more ← match (← nodeAt value).content with
                | .mapping _ => do
                    flattenFrom fuel value 0 []
                    entriesAt value
                | .sequence items => mergedItems fuel items
                | .scalar .. => malformed
              flattenFrom fuel id index (merged ++ more)
          | .usual => do
              change key fun node => { node with meaning := .text }
              flattenFrom fuel id (index + 1) merged
          | _ => flattenFrom fuel id (index + 1) merged

/-- The entries of a list of mappings, those of the last one in front. -/
def mergedItems (fuel : Nat) (items : List NodeId) : Builds (List (NodeId × NodeId)) :=
  match fuel, items with
  | 0, _ => throw (.broken .tooDeep)
  | _, [] => return []
  | fuel + 1, item :: rest => do
      let _ ← entriesAt item
      flattenFrom fuel item 0 []
      let entries ← entriesAt item
      let others ← mergedItems fuel rest
      return others ++ entries

end

/-- The text of a scalar, and whether it is ragged.  A mapping may stand for the value under its usual
mark. -/
def scalarText (fuel : Nat) (id : NodeId) : Builds (String × Bool) :=
  match fuel with
  | 0 => throw (.broken .tooDeep)
  | fuel + 1 => do
      match (← nodeAt id).content with
      | .scalar text ragged => return (text, ragged)
      | .sequence _ => malformed
      | .mapping entries => do
          let nodes := (← get).nodes
          match entries.find? fun e => (nodes.getD e.1 default).meaning = .usual with
          | some (_, value) => scalarText fuel value
          | none => malformed

def scalarValue (node : Node) (text : String) (ragged : Bool) : Except Fault Value :=
  match node.meaning with
  | .nothing => .ok .null
  | .truth => (truth text).map .bool
  | .integer => (integer text).map .int
  | .floating => (floating text).map .float
  | .octets => (octets text).map (.octets .fixed)
  | .date =>
      match node.content with
      | .scalar .. => (date text).map .moment
      | _ => .error (.broken .unfitKind)
  | .text => .ok (if ragged then .ragged text else .text text)
  | _ => .error .malformed

def Meaning.isCollection : Meaning → Bool
  | pairs => true
  | set => true
  | sequence => true
  | mapping => true
  | _ => false

def Meaning.isBarren : Meaning → Bool
  | merge => true
  | usual => true
  | unknown => true
  | _ => false

/-- What stands for a node.  A collection that is met for the first time waits to be filled. -/
def partOf (id : NodeId) : Builds Part := do
  match (← get).parts[id]?.join with
  | some part => return part
  | none => do
      let node ← nodeAt id
      let part ←
        if node.meaning.isCollection then do
          modify fun b => { b with waiting := id :: b.waiting }
          pure (Part.collection id)
        else if node.meaning.isBarren then malformed
        else do
          let (text, ragged) ← scalarText ((← get).nodes.size + 1) id
          Part.value <$> (scalarValue node text ragged : Except Fault Value)
      modify fun b => { b with parts := b.parts.setIfInBounds id (some part) }
      return part

def keyOf (id : NodeId) : Builds Value := do
  match ← partOf id with
  | .value key => return key
  | .collection _ => malformed

def putPart (entries : List (Value × Part)) (key : Value) (part : Part) : List (Value × Part) :=
  match entries with
  | [] => [(key, part)]
  | e :: rest => if e.1.sameKey key then (e.1, part) :: rest else e :: putPart rest key part

def Meaning.isMark : Meaning → Bool
  | merge => true
  | usual => true
  | _ => false

def entriesOf (id : NodeId) : Builds (List (Value × Part)) := do
  let own ← entriesAt id
  let nodes := (← get).nodes
  if own.any fun e => (nodes.getD e.1 default).meaning.isMark then
    flattenFrom mergeLimit id 0 []
  (← entriesAt id).foldlM
    (fun entries (key, value) => do
      let k ← keyOf key
      let part ← partOf value
      return putPart entries k part)
    []

def pairOf (id : NodeId) : Builds (Part × Part) := do
  match ← entriesAt id with
  | [(key, value)] => do
      let first ← partOf key
      let second ← partOf value
      return (first, second)
  | _ => malformed

def fillingOf (id : NodeId) : Builds Filling := do
  match (← nodeAt id).meaning with
  | .sequence => do return .list (← (← itemsAt id).mapM partOf)
  | .pairs => do return .pairs (← (← itemsAt id).mapM pairOf)
  | .set => do return .set ((← entriesOf id).map (·.1))
  | _ => do return .dict (← entriesOf id)

def fillAll (fuel : Nat) (ids : List NodeId) : Builds Unit :=
  match fuel, ids with
  | fuel + 1, id :: rest => do
      let filling ← fillingOf id
      modify fun b => { b with fillings := (id, filling) :: b.fillings }
      fillAll fuel rest
  | fuel + 1, [] => do
      match (← get).waiting.reverse with
      | [] => return
      | next => do
          modify fun b => { b with waiting := [] }
          fillAll fuel next
  | 0, _ => return

structure Document where
  root : Part
  fillings : Array (Option Filling)

def document (g : Graph) : Except Fault Document :=
  match g.root with
  | none => .ok ⟨.value .null, #[]⟩
  | some root => do
      let build : Builds Part := do
        let part ← partOf root
        fillAll (2 * g.nodes.size + 2) []
        return part
      let size := g.nodes.size
      let (part, b) ← build.run ⟨g.nodes, Array.replicate size none, [], []⟩
      let fillings := b.fillings.foldl (fun all f => all.setIfInBounds f.1 (some f.2)) (Array.replicate size none)
      .ok ⟨part, fillings⟩

/-! ### Values of documents -/

abbrev Known := Array (Option Value)

def Part.value? (known : Known) : Part → Option Value
  | value v => some v
  | collection id => known[id]?.join

def Filling.value? (known : Known) : Filling → Option Value
  | list items => (items.mapM (Part.value? known)).map .list
  | pairs items =>
      (items.mapM fun (p : Part × Part) => do
        let first ← p.1.value? known
        let second ← p.2.value? known
        some (Value.tuple [first, second])).map .list
  | set items => some (.set items)
  | dict entries =>
      (entries.mapM fun (e : Value × Part) => (e.2.value? known).map fun v => (e.1, v)).map .dict

def Filling.hollow : Filling → Value
  | list _ => .list []
  | pairs _ => .list []
  | set _ => .set []
  | dict _ => .dict []

/-- One round over all collections, inner ones before outer ones: those that are not settled get the values
that the known ones give them. -/
def Document.round (d : Document) (settled : NodeId → Bool) (known : Known) : Known :=
  (List.range d.fillings.size).reverse.foldl
    (fun known id =>
      if settled id then known
      else
        match d.fillings[id]?.join.bind (·.value? known) with
        | some v => known.setIfInBounds id (some v)
        | none => known)
    known

/-- Settles all collections that do not lie inside themselves, in rounds. -/
def Document.settle (d : Document) (fuel : Nat) (known : Known) : Known :=
  match fuel with
  | 0 => known
  | fuel + 1 =>
      let next := d.round (fun id => known[id]?.join.isSome) known
      if (next.filter (·.isSome)).size = (known.filter (·.isSome)).size then known else d.settle fuel next

/-- How deep a collection that lies inside itself is followed.  No other collection is so deep. -/
def unrolledDepth : Nat := 512

def Document.value (d : Document) : Value :=
  let size := d.fillings.size
  let known := d.settle (size + 1) (Array.replicate size none)
  match d.root.value? known with
  | some value => value
  | none =>
      let isSettled (id : NodeId) : Bool := known[id]?.join.isSome
      let start := (List.range size).foldl
        (fun values id =>
          if isSettled id then values else values.setIfInBounds id (d.fillings[id]?.join.map Filling.hollow))
        known
      let deepen (values : Known) (_ : Nat) : Known := d.round isSettled values
      (d.root.value? ((List.range unrolledDepth).foldl deepen start)).getD .null

def Filling.again : Filling → String
  | set _ => "set(...)"
  | dict _ => "\x7b...\x7d"
  | _ => "[...]"

def between (first : String) (items : List String) (last : String) : String :=
  first ++ ", ".intercalate items ++ last

def Document.shown? (d : Document) (fuel : Nat) (outer : List NodeId) : Part → Option String
  | .value v => v.shown?
  | .collection id =>
      match fuel, d.fillings[id]?.join with
      | fuel + 1, some filling =>
          if outer.contains id then some filling.again
          else
            let inner := shown? d fuel (id :: outer)
            match filling with
            | .list items => (items.mapM inner).map fun shown => between "[" shown "]"
            | .pairs items => do
                let shown ← items.mapM fun p => do
                  let first ← inner p.1
                  let second ← inner p.2
                  some (between "(" [first, second] ")")
                some (between "[" shown "]")
            | .set items => (Value.set items).shown?
            | .dict entries => do
                let shown ← entries.mapM fun e => do
                  let key ← e.1.shown?
                  let value ← inner e.2
                  some (key ++ ": " ++ value)
                some (between "\x7b" shown "\x7d")
      | _, _ => none

def Document.display? (d : Document) : Part → Option String
  | .value v => v.display?
  | part => d.shown? (d.fillings.size + 1) [] part

/-- How the value at a name of the outermost mapping is written; nothing if there is none, and nothing inside
if it cannot be written. -/
def Document.fieldText? (d : Document) (name : String) : Option (Option String) :=
  match d.root with
  | .value _ => none
  | .collection id =>
      match d.fillings[id]?.join with
      | some (.dict entries) =>
          (entries.find? fun e => e.1.sameKey (.text name)).map fun e => d.display? e.2
      | _ => none

def read (s : String) : Except Fault Document := do
  document (← graph (events (tokens s.toList)))

end ReorgGuard.Yaml
