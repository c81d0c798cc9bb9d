import TrafficSteering.Dict
import TrafficSteering.Yaml.Token

namespace TrafficSteering.Yaml

structure Properties where
  anchor : Option String := none
  tag : Option Tag := none
deriving DecidableEq, Inhabited

/-- A node of a document. An alias stays in the tree, for the node it stands for may be one of those
around it. -/
inductive Node where
  | scalar (props : Properties) (text : String) (style : Style)
  | seq (props : Properties) (items : List Node)
  | map (props : Properties) (entries : List (Node × Node))
  /-- An alias; `place` tells it from all other ones. -/
  | reference (name : String) (place : Nat)
deriving Inhabited

namespace Node

def empty (props : Properties) : Node := .scalar props "" .plain

def tag : Node → Option Tag
  | scalar props _ _ | seq props _ | map props _ => props.tag
  | reference _ _ => none

def anchor : Node → Option String
  | scalar props _ _ | seq props _ | map props _ => props.anchor
  | reference _ _ => none

mutual

def preorder : Node → List Node
  | scalar props text style => [scalar props text style]
  | reference name place => [reference name place]
  | seq props items => seq props items :: preorderItems items
  | map props entries => map props entries :: preorderEntries entries

def preorderItems : List Node → List Node
  | [] => []
  | v :: rest => preorder v ++ preorderItems rest

def preorderEntries : List (Node × Node) → List Node
  | [] => []
  | (k, v) :: rest => preorder k ++ preorder v ++ preorderEntries rest

end

abbrev Handles := List (String × Tag)

def standardHandles : Handles := [("!", Text.utf8 "!"), ("!!", Text.utf8 "tag:yaml.org,2002:")]

abbrev WithRest : Type := Except Fault (Node × List Token)

def resolveTag (handles : Handles) : Tag.Form → Except Fault Tag
  | .whole tag => .ok tag
  | .short handle suffix =>
    match handles.lookup handle with
    | some start => .ok (start ++ suffix)
    | none => .error .badTag

def properties (handles : Handles) : List Token → Except Fault (Properties × List Token)
  | .anchor name :: .tag form :: rest | .tag form :: .anchor name :: rest =>
    (resolveTag handles form).map fun tag ↦ ({ anchor := some name, tag := some tag }, rest)
  | .anchor name :: rest => .ok ({ anchor := some name }, rest)
  | .tag form :: rest => (resolveTag handles form).map fun tag ↦ ({ tag := some tag }, rest)
  | ts => .ok ({}, ts)

def startsWith (ts : List Token) (among : List Token) : Bool :=
  match ts with
  | t :: _ => among.contains t
  | [] => false

variable (handles : Handles)

mutual

/-- A node; `block` tells that block collections may stand here, `loose` that a sequence may stand
here at the column of the mapping around it. -/
def ofTokens : Nat → (block loose : Bool) → List Token → WithRest
  | 0, _, _, _ => .error (.expected "node content")
  | n + 1, block, loose, ts =>
    match ts with
    | .reference name :: rest => .ok (reference name rest.length, rest)
    | ts => do
      let (props, rest) ← properties handles ts
      match rest with
      | .scalar text style :: rest => return (scalar props text style, rest)
      | .flowSeqStart :: rest => flowItems n props true [] rest
      | .flowMapStart :: rest => flowEntries n props true [] rest
      | rest =>
        if loose && startsWith rest [.blockEntry] then looseItems n props [] rest
        else if block && startsWith rest [.blockSeqStart] then
          blockItems n props [] rest.tail
        else if block && startsWith rest [.blockMapStart] then
          blockEntries n props [] rest.tail
        else if props = {} then .error (.expected "node content")
        else return (empty props, rest)

def orEmpty (among : List Token) : Nat → (block loose : Bool) → List Token → WithRest
  | 0, _, _, _ => .error (.expected "node content")
  | n + 1, block, loose, ts =>
    if startsWith ts among then .ok (empty {}, ts) else ofTokens n block loose ts

def blockItems : Nat → Properties → List Node → List Token → WithRest
  | 0, _, _, _ => .error (.expected "'-' indicator")
  | n + 1, props, done, ts =>
    match ts with
    | .blockEntry :: rest => do
      let (item, rest) ← orEmpty [.blockEntry, .blockEnd] n true false rest
      blockItems n props (item :: done) rest
    | .blockEnd :: rest => .ok (seq props done.reverse, rest)
    | _ => .error (.expected "'-' indicator")

/-- Items at the column of the mapping around them. -/
def looseItems : Nat → Properties → List Node → List Token → WithRest
  | 0, _, _, _ => .error (.expected "'-' indicator")
  | n + 1, props, done, ts =>
    match ts with
    | .blockEntry :: rest => do
      let (item, rest) ← orEmpty [.blockEntry, .key, .value, .blockEnd] n true false rest
      looseItems n props (item :: done) rest
    | ts => .ok (seq props done.reverse, ts)

def blockEntries : Nat → Properties → List (Node × Node) → List Token → WithRest
  | 0, _, _, _ => .error (.expected "key")
  | n + 1, props, done, ts =>
    match ts with
    | .key :: rest => do
      let (key, rest) ← orEmpty [.key, .value, .blockEnd] n true true rest
      let (item, rest) ← match rest with
        | .value :: rest => orEmpty [.key, .value, .blockEnd] n true true rest
        | rest => .ok (empty {}, rest)
      blockEntries n props ((key, item) :: done) rest
    | .blockEnd :: rest => .ok (map props done.reverse, rest)
    | _ => .error (.expected "key")

def flowValue (stop : Token) : Nat → List Token → WithRest
  | 0, _ => .error (.expected "node content")
  | n + 1, ts =>
    match ts with
    | .value :: rest => orEmpty [.flowEntry, stop] n false false rest
    | ts => .ok (empty {}, ts)

/-- One item of a flow sequence: a node, or a pair that makes a mapping of its own. -/
def flowItem : Nat → List Token → WithRest
  | 0, _ => .error (.expected "node content")
  | n + 1, ts =>
    match ts with
    | .key :: rest => do
      let (key, rest) ←
        if startsWith rest [.value, .flowEntry, .flowSeqEnd] then .ok (empty {}, rest.tail)
        else ofTokens n false false rest
      let (item, rest) ← flowValue .flowSeqEnd n rest
      return (map {} [(key, item)], rest)
    | ts => ofTokens n false false ts

def flowItems : Nat → Properties → (first : Bool) → List Node → List Token → WithRest
  | 0, _, _, _, _ => .error (.expected "',' or ']'")
  | n + 1, props, first, done, ts =>
    match ts with
    | .flowSeqEnd :: rest => .ok (seq props done.reverse, rest)
    | .flowEntry :: .flowSeqEnd :: rest =>
      if first then .error (.expected "node content") else .ok (seq props done.reverse, rest)
    | ts => do
      let ts ←
        if first then .ok ts
        else
          match ts with
          | .flowEntry :: rest => .ok rest
          | _ => .error (.expected "',' or ']'")
      let (item, rest) ← flowItem n ts
      flowItems n props false (item :: done) rest

def flowEntry : Nat → List Token → Except Fault ((Node × Node) × List Token)
  | 0, _ => .error (.expected "node content")
  | n + 1, ts =>
    match ts with
    | .key :: rest => do
      let (key, rest) ← orEmpty [.value, .flowEntry, .flowMapEnd] n false false rest
      let (item, rest) ← flowValue .flowMapEnd n rest
      return ((key, item), rest)
    | ts => do
      let (key, rest) ← ofTokens n false false ts
      return ((key, empty {}), rest)

def flowEntries :
    Nat → Properties → (first : Bool) → List (Node × Node) → List Token → WithRest
  | 0, _, _, _, _ => .error (.expected "',' or closing brace")
  | n + 1, props, first, done, ts =>
    match ts with
    | .flowMapEnd :: rest => .ok (map props done.reverse, rest)
    | .flowEntry :: .flowMapEnd :: rest =>
      if first then .error (.expected "node content") else .ok (map props done.reverse, rest)
    | ts => do
      let ts ←
        if first then .ok ts
        else
          match ts with
          | .flowEntry :: rest => .ok rest
          | _ => .error (.expected "',' or closing brace")
      let (entry, rest) ← flowEntry n ts
      flowEntries n props false (entry :: done) rest

end

end Node

/-- A document: its root, if it has any content, and the targets of its aliases by their places. -/
structure Document where
  root : Option Node
  targets : List (Nat × Node) := []
deriving Inhabited

namespace Document

structure Directives where
  version : Bool := false
  handles : Node.Handles := []

def directives (d : Directives) : List Token → Except Fault (Directives × List Token)
  | .directive (.version major minor) :: rest =>
    if d.version || major != 1 || !(minor == 1 || minor == 2) then .error .badDirective
    else directives { d with version := true } rest
  | .directive (.tag handle start) :: rest =>
    if (d.handles.lookup handle).isSome then .error .badDirective
    else directives { d with handles := (handle, start) :: d.handles } rest
  | ts => .ok (d, ts)

structure Anchors where
  numbers : Dict Nat := Dict.empty
  nodes : List (Nat × Node) := []
  aliases : List (Nat × Nat) := []

/-- An anchor gets the number of the names before it; where a number is given twice, the later node
has it. -/
def Anchors.meet (a : Anchors) : Node → Except Fault Anchors
  | .reference name place =>
    match a.numbers.get? name with
    | some n => .ok { a with aliases := (place, n) :: a.aliases }
    | none => .error (.unknownAnchor name)
  | node =>
    match node.anchor with
    | none => .ok a
    | some name =>
      let n := a.numbers.entries.length
      .ok { a with numbers := a.numbers.insert name n, nodes := (n, node) :: a.nodes }

def Anchors.targets (a : Anchors) : List (Nat × Node) :=
  a.aliases.filterMap fun e ↦ (a.nodes.lookup e.2).map (e.1, ·)

def ofRoot (root : Node) : Except Fault Document := do
  let anchors ← root.preorder.foldlM Anchors.meet {}
  return { root := some root, targets := anchors.targets }

def content (handles : Node.Handles) (ts : List Token) : Except Fault (Node × List Token) :=
  match ts with
  | [] | .documentStart :: _ | .documentEnd :: _ | .directive _ :: _ => .ok (Node.empty {}, ts)
  | ts => Node.ofTokens handles (2 * ts.length + 2) true false ts

def ofTokens (ts : List Token) : Except Fault Document := do
  let (d, ts) ← directives {} ts
  let handles := d.handles ++ Node.standardHandles
  let explicit := d.version || !d.handles.isEmpty
  match ts with
  | [] => if explicit then .error (.expected "document start") else return { root := none }
  | t :: rest =>
    if explicit && t != .documentStart then .error (.expected "document start")
    else
      let (root, rest) ← if t = .documentStart then content handles rest
        else Node.ofTokens handles (2 * ts.length + 2) true false ts
      let document ← ofRoot root
      if rest.all (· == .documentEnd) then return document else .error .moreThanOneDocument

def parse (text : String) : Except Fault Document := do ofTokens (← Token.scan text)

def follow (d : Document) (node : Node) : Node :=
  match node with
  | .reference _ place => (d.targets.lookup place).getD node
  | node => node

end Document

end TrafficSteering.Yaml
