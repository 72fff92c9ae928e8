import ReorgGuard.Yaml.Token

/-!
The structure of a YAML document, event by event.

A collection is opened, its parts follow, and it is closed.  Events are told one after the other,
and each as soon as the tokens seen so far decide it; a fault ends them.  The events of a document
that is followed by nothing end without a fault.
-/

namespace ReorgGuard.Yaml

structure Properties where
  anchor : Option String
  tag : Option String

inductive Event where
  | alias (name : String)
  /-- A scalar; plain text without a tag is read for what it means. -/
  | scalar (properties : Properties) (plain : Bool) (text : String) (ragged : Bool)
  | openSequence (properties : Properties)
  | openMapping (properties : Properties)
  | close
  | fault (fault : Fault)

def Event.empty : Event := .scalar ⟨none, none⟩ true "" false

inductive Place where
  /-- A node; blocks are allowed or not, and so is a block sequence without indentation. -/
  | node (blocks loose : Bool)
  | blockEntries
  | looseEntries
  | blockKey
  | blockValue
  | flowItem (first : Bool)
  /-- The key of a mapping of one entry that stands in a flow sequence without braces. -/
  | pairKey
  | pairValue
  | pairEnd
  | flowKey (first : Bool)
  | flowValue
  /-- The missing value of a key that stands alone. -/
  | noValue

/-- What is left: the places that are open, innermost first, and the tokens. -/
structure Outline where
  places : List Place
  tokens : List Token

abbrev Step := Except Fault (List Event × Outline)

abbrev Handles := List (String × String)

def usualHandles : Handles := [("!", "!"), ("!!", "tag:yaml.org,2002:")]

def expandTag (handles : Handles) (handle : Option String) (suffix : String) : Except Fault String :=
  match handle with
  | none => .ok suffix
  | some h =>
      match handles.lookup h with
      | some expansion => .ok (expansion ++ suffix)
      | none => .error .malformed

def look (tokens : List Token) : Except Fault Unit :=
  match tokens with
  | .fault f :: _ => .error f
  | _ => .ok ()

/-- Whether the next token is one of those that end an empty node; so does the end of the tokens. -/
def endsAt (tokens : List Token) (ends : Token → Bool) : Bool :=
  tokens.head?.elim true ends

def properties (handles : Handles) (tokens : List Token) : Except Fault (Properties × List Token) := do
  match tokens with
  | .anchor name :: rest => do
      look rest
      match rest with
      | .tag handle suffix :: rest => do
          let tag ← expandTag handles handle suffix
          .ok (⟨some name, some tag⟩, rest)
      | _ => .ok (⟨some name, none⟩, rest)
  | .tag handle suffix :: rest => do
      look rest
      let tag ← expandTag handles handle suffix
      match rest with
      | .anchor name :: rest => .ok (⟨some name, some tag⟩, rest)
      | _ => .ok (⟨none, some tag⟩, rest)
  | _ => .ok (⟨none, none⟩, tokens)

def absent (p : Properties) (left : Outline) : Step :=
  if p.anchor.isSome || p.tag.isSome then .ok ([.scalar p true "" false], left) else .error .malformed

def content (blocks loose : Bool) (p : Properties) (outer : List Place) (tokens : List Token) : Step := do
  look tokens
  let opened (event : Event) (place : Place) (tokens : List Token) : Step :=
    .ok ([event], ⟨place :: outer, tokens⟩)
  match tokens with
  | .entry :: _ =>
      if loose then opened (.openSequence p) .looseEntries tokens else absent p ⟨outer, tokens⟩
  | .scalar plain text ragged :: rest => .ok ([.scalar p plain text ragged], ⟨outer, rest⟩)
  | .openFlowSequence :: rest => opened (.openSequence p) (.flowItem true) rest
  | .openFlowMapping :: rest => opened (.openMapping p) (.flowKey true) rest
  | .openSequence :: rest =>
      if blocks then opened (.openSequence p) .blockEntries rest else absent p ⟨outer, tokens⟩
  | .openMapping :: rest =>
      if blocks then opened (.openMapping p) .blockKey rest else absent p ⟨outer, tokens⟩
  | _ => absent p ⟨outer, tokens⟩

def node (handles : Handles) (blocks loose : Bool) (outer : List Place) (tokens : List Token) : Step :=
  match tokens with
  | .alias name :: rest => .ok ([.alias name], ⟨outer, rest⟩)
  | _ => do
      let (p, rest) ← properties handles tokens
      content blocks loose p outer rest

/-- A part that may be missing: an empty node in front of a token that ends it, any other node otherwise. -/
def part (ends : Token → Bool) (blocks loose : Bool) (behind : Place) (outer : List Place)
    (tokens : List Token) : Step := do
  look tokens
  if endsAt tokens ends then .ok ([.empty], ⟨behind :: outer, tokens⟩)
  else .ok ([], ⟨.node blocks loose :: behind :: outer, tokens⟩)

def endsEntry : Token → Bool
  | .entry => true
  | .closeBlock => true
  | _ => false

def endsLooseEntry : Token → Bool
  | .key => true
  | .value => true
  | token => endsEntry token

def endsPart : Token → Bool
  | .key => true
  | .value => true
  | .closeBlock => true
  | _ => false

def endsFlowValue : Token → Bool
  | .comma => true
  | .closeFlowSequence => true
  | .closeFlowMapping => true
  | _ => false

def endsFlowKey : Token → Bool
  | .value => true
  | token => endsFlowValue token

def behindComma (first : Bool) (tokens : List Token) : Except Fault (List Token) :=
  if first then .ok tokens
  else
    match tokens with
    | .comma :: rest => (look rest).map fun _ => rest
    | _ => .error .malformed

def stepAt (handles : Handles) (place : Place) (outer : List Place) (tokens : List Token) : Step := do
  look tokens
  match place with
  | .node blocks loose => node handles blocks loose outer tokens
  | .blockEntries =>
      match tokens with
      | .entry :: rest => part endsEntry true false .blockEntries outer rest
      | .closeBlock :: rest => .ok ([.close], ⟨outer, rest⟩)
      | _ => .error .malformed
  | .looseEntries =>
      match tokens with
      | .entry :: rest => part endsLooseEntry true false .looseEntries outer rest
      | _ => .ok ([.close], ⟨outer, tokens⟩)
  | .blockKey =>
      match tokens with
      | .key :: rest => part endsPart true true .blockValue outer rest
      | .closeBlock :: rest => .ok ([.close], ⟨outer, rest⟩)
      | _ => .error .malformed
  | .blockValue =>
      match tokens with
      | .value :: rest => part endsPart true true .blockKey outer rest
      | _ => .ok ([.empty], ⟨.blockKey :: outer, tokens⟩)
  | .flowItem first =>
      match tokens with
      | .closeFlowSequence :: rest => .ok ([.close], ⟨outer, rest⟩)
      | _ => do
          let tokens ← behindComma first tokens
          match tokens with
          | .key :: rest => .ok ([.openMapping ⟨none, none⟩], ⟨.pairKey :: .flowItem false :: outer, rest⟩)
          | .closeFlowSequence :: rest => .ok ([.close], ⟨outer, rest⟩)
          | _ => .ok ([], ⟨.node false false :: .flowItem false :: outer, tokens⟩)
  | .pairKey => part endsFlowKey false false .pairValue outer tokens
  | .pairValue =>
      match tokens with
      | .value :: rest => part endsFlowValue false false .pairEnd outer rest
      | _ => .ok ([.empty], ⟨.pairEnd :: outer, tokens⟩)
  | .pairEnd => .ok ([.close], ⟨outer, tokens⟩)
  | .flowKey first =>
      match tokens with
      | .closeFlowMapping :: rest => .ok ([.close], ⟨outer, rest⟩)
      | _ => do
          let tokens ← behindComma first tokens
          match tokens with
          | .key :: rest => part endsFlowKey false false .flowValue outer rest
          | .closeFlowMapping :: rest => .ok ([.close], ⟨outer, rest⟩)
          | _ => .ok ([], ⟨.node false false :: .noValue :: outer, tokens⟩)
  | .flowValue =>
      match tokens with
      | .value :: rest => part endsFlowValue false false (.flowKey false) outer rest
      | _ => .ok ([.empty], ⟨.flowKey false :: outer, tokens⟩)
  | .noValue => .ok ([.empty], ⟨.flowKey false :: outer, tokens⟩)

def dropEnds : List Token → List Token
  | .documentEnd :: rest => dropEnds rest
  | rest => rest

def directives (handles : Handles) (versioned : Bool) : List Token → Except Fault (Handles × List Token)
  | .directive (.version major) :: rest =>
      if versioned || major ≠ 1 then .error .malformed else directives handles true rest
  | .directive (.handle name expansion) :: rest =>
      if handles.any (·.1 = name) then .error .malformed
      else directives ((name, expansion) :: handles) versioned rest
  | .directive .reserved :: rest => directives handles versioned rest
  | rest => (look rest).map fun _ => (handles, rest)

/-- What is told behind the document: nothing at the end, and a fault where another document begins. -/
def behindDocument (tokens : List Token) : List Event :=
  match dropEnds tokens with
  | [] => []
  | rest =>
      match directives [] false rest with
      | .error fault => [.fault fault]
      | .ok _ => [.fault .malformed]

/-- All events, given those told so far, last one first. -/
def eventsFrom (fuel : Nat) (handles : Handles) (told : List Event) (left : Outline) : List Event :=
  match fuel, left.places with
  | _, [] => told.reverse ++ behindDocument left.tokens
  | 0, _ => (.fault .malformed :: told).reverse
  | fuel + 1, place :: outer =>
      match stepAt handles place outer left.tokens with
      | .error fault => (.fault fault :: told).reverse
      | .ok (more, left) => eventsFrom fuel handles (more.reverse ++ told) left

def betweenDocuments : Token → Bool
  | .directive _ => true
  | .documentStart => true
  | .documentEnd => true
  | _ => false

/-- The events of the document in a stream of tokens.  An empty stream has none. -/
def events (tokens : List Token) : List Event :=
  let fuel := 8 * tokens.length + 16
  let explicit : List Event :=
    match directives [] false tokens with
    | .ok (own, .documentStart :: rest) =>
        match look rest with
        | .error fault => [.fault fault]
        | .ok () =>
            if endsAt rest betweenDocuments then .empty :: behindDocument rest
            else eventsFrom fuel (own ++ usualHandles) [] ⟨[.node true false], rest⟩
    | .ok _ => [.fault .malformed]
    | .error fault => [.fault fault]
  match tokens with
  | [] => []
  | .directive _ :: _ => explicit
  | .documentStart :: _ => explicit
  | _ => eventsFrom fuel usualHandles [] ⟨[.node true false], tokens⟩

end ReorgGuard.Yaml
