import ReorgGuard.Yaml.Event
import ReorgGuard.Yaml.Meaning

/-!
Nodes of a YAML document.

The nodes of a document are numbered in the order in which they begin.  A name given to a node by
an anchor stands for the node from there on, also inside of it, and is given once only.
-/

namespace ReorgGuard.Yaml

abbrev NodeId := Nat

inductive Content where
  | scalar (text : String) (ragged : Bool)
  | sequence (items : List NodeId)
  | mapping (entries : List (NodeId × NodeId))
  deriving Inhabited

structure Node where
  meaning : Meaning
  content : Content
  deriving Inhabited

/-- A collection that is not closed yet: its number, whether it is a mapping, and its parts, last one
first. -/
structure Opened where
  id : NodeId
  isMapping : Bool
  parts : List NodeId

structure Assembly where
  nodes : Array Node
  named : List (String × NodeId)
  opened : List Opened
  root : Option NodeId

/-- The nodes of a document, and the outermost one, if the document is not empty. -/
structure Graph where
  nodes : Array Node
  root : Option NodeId

def depthLimit : Nat := 480

def pairUp : List NodeId → List (NodeId × NodeId)
  | key :: value :: rest => (key, value) :: pairUp rest
  | _ => []

def Opened.content (o : Opened) : Content :=
  if o.isMapping then .mapping (pairUp o.parts.reverse) else .sequence o.parts.reverse

namespace Assembly

def empty : Assembly := ⟨#[], [], [], none⟩

def place (a : Assembly) (id : NodeId) : Assembly :=
  match a.opened with
  | [] => { a with root := some id }
  | o :: outer => { a with opened := { o with parts := id :: o.parts } :: outer }

def start (a : Assembly) (anchor : Option String) (node : Node) : NodeId × Assembly :=
  let id := a.nodes.size
  let named := match anchor with
    | some name => (name, id) :: a.named
    | none => a.named
  (id, { a with nodes := a.nodes.push node, named := named })

def checkName (a : Assembly) (anchor : Option String) : Except Fault Unit :=
  match anchor with
  | some name => if a.named.any (·.1 = name) then .error .malformed else .ok ()
  | none => .ok ()

def meaningOf (tag : Option String) (otherwise marked : Meaning) : Meaning :=
  match tag with
  | none => otherwise
  | some "!" => marked
  | some tag => .ofTag tag

def openAt (a : Assembly) (p : Properties) (isMapping : Bool) : Except Fault Assembly := do
  a.checkName p.anchor
  if depthLimit ≤ a.opened.length then .error (.broken .tooDeep)
  else
    let meaning : Meaning := if isMapping then .mapping else .sequence
    let content : Content := if isMapping then .mapping [] else .sequence []
    let (id, next) := a.start p.anchor ⟨meaningOf p.tag meaning meaning, content⟩
    .ok { next with opened := ⟨id, isMapping, []⟩ :: next.opened }

def step (a : Assembly) : Event → Except Fault Assembly
  | .alias name =>
      match a.named.lookup name with
      | some id => .ok (a.place id)
      | none => .error .malformed
  | .scalar p plain text ragged => do
      a.checkName p.anchor
      let plainly := Meaning.ofText text
      let meaning := meaningOf p.tag (if plain then plainly else .text) plainly
      let (id, next) := a.start p.anchor ⟨meaning, .scalar text ragged⟩
      .ok (next.place id)
  | .openSequence p => a.openAt p false
  | .openMapping p => a.openAt p true
  | .close =>
      match a.opened with
      | [] => .error .malformed
      | o :: outer =>
          let nodes := a.nodes.modify o.id fun node => { node with content := o.content }
          .ok ({ a with nodes := nodes, opened := outer }.place o.id)
  | .fault fault => .error fault

end Assembly

def graph (events : List Event) : Except Fault Graph :=
  (events.foldlM Assembly.step .empty).map fun a => ⟨a.nodes, a.root⟩

end ReorgGuard.Yaml
