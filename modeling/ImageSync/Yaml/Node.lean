import ImageSync.Yaml.Lexer

/-!
# YAML documents

A document is a tree of scalars, sequences and mappings. An alias stands for the node with its
anchor, and is replaced by it.

## Main definitions

* `Node`: the tree.
* `Document`: what is left to read, with the anchors and tag handles met so far.
* `Document.node?`: one node.
* `Node.parse?`: the only document of a text.
-/

namespace ImageSync.Yaml

/-- A node of a document. The tag of a scalar is empty if it has none. -/
inductive Node where
  | scalar (style : Style) (tag : List Char) (text : List Char)
  | sequence (items : List Node)
  | mapping (entries : List (Node × Node))
deriving Repr, Inhabited

/-- What stands where nothing is written. -/
def Node.empty : Node := .scalar .plain [] []

/-- What is left to read of a document. -/
structure Document where
  tokens : List Token
  /-- The nodes with anchors, the latest first; a node that is not complete is `none`. -/
  anchors : List (List Char × Option Node) := []
  /-- The handles of tags with what they stand for. -/
  handles : List (List Char × List Char) := []

namespace Document

/-- The document without its first token. -/
def next (d : Document) : Document := { d with tokens := d.tokens.drop 1 }

/-- Whether the first token is one of those given. -/
def at_ (d : Document) (ts : List Token) : Bool := d.tokens.head?.any fun t => ts.contains t

/-- The whole tag of a handle and what stands behind it. -/
def wholeTag? (d : Document) (handle rest : List Char) : Option (List Char) :=
  if handle.isEmpty then some rest else (d.handles.lookup handle).map (· ++ rest)

/-- The anchor and the tag in front of a node, in either order. -/
def properties? (d : Document) : Option (Option (List Char) × Option (List Char) × Document) :=
  match d.tokens with
  | .anchor a :: .tag h s :: ts =>
    (d.wholeTag? h s).map fun tag => (some a, some tag, { d with tokens := ts })
  | .anchor a :: ts => some (some a, none, { d with tokens := ts })
  | .tag h s :: .anchor a :: ts =>
    (d.wholeTag? h s).map fun tag => (some a, some tag, { d with tokens := ts })
  | .tag h s :: ts => (d.wholeTag? h s).map fun tag => (none, some tag, { d with tokens := ts })
  | _ => some (none, none, d)

/-- The document in which an anchor stands for a node. -/
def bind (d : Document) (anchor : Option (List Char)) (n : Option Node) : Document :=
  match anchor with
  | some a => { d with anchors := (a, n) :: d.anchors }
  | none => d

mutual

/-- The node at the beginning of the tokens. `block` allows collections written by indentation,
`indentless` also a list at the column of its key. -/
def node? (block indentless : Bool) : Nat → Document → Option (Node × Document)
  | 0, _ => none
  | fuel + 1, d =>
    match d.tokens with
    | .alias a :: _ =>
      match d.anchors.lookup a with
      | some (some n) => some (n, d.next)
      | _ => none
    | _ =>
      match d.properties? with
      | none => none
      | some (anchor, tag, d) =>
        match content? block indentless tag (anchor.isSome || tag.isSome) fuel (d.bind anchor none) with
        | none => none
        | some (n, d) => some (n, d.bind anchor (some n))

/-- A node without the anchor and the tag in front of it. -/
def content? (block indentless : Bool) (tag : Option (List Char)) (mayBeEmpty : Bool) :
    Nat → Document → Option (Node × Document)
  | 0, _ => none
  | fuel + 1, d =>
    match d.tokens with
    | .scalar style text :: _ =>
      let tag := if tag = some ['!'] then [] else tag.getD []
      some (.scalar style tag text, d.next)
    | .flowSequenceStart :: _ =>
      (flowItems? true fuel d.next).map fun (items, d) => (.sequence items, d)
    | .flowMappingStart :: _ =>
      (flowFields? true fuel d.next).map fun (fields, d) => (.mapping fields, d)
    | t :: _ =>
      if t = .blockEntry ∧ indentless then
        (indentlessItems? fuel d).map fun (items, d) => (.sequence items, d)
      else if t = .blockSequenceStart ∧ block then
        (blockItems? fuel d.next).map fun (items, d) => (.sequence items, d)
      else if t = .blockMappingStart ∧ block then
        (blockFields? fuel d.next).map fun (fields, d) => (.mapping fields, d)
      else if mayBeEmpty then some (.scalar .plain (tag.getD []) [], d)
      else none
    | [] => none

/-- The items of a list with its own indentation, up to its end. -/
def blockItems? : Nat → Document → Option (List Node × Document)
  | 0, _ => none
  | fuel + 1, d =>
    match d.tokens with
    | .blockEntry :: _ =>
      let d := d.next
      let item :=
        if d.at_ [.blockEntry, .blockEnd] then some (.empty, d) else node? true false fuel d
      match item with
      | none => none
      | some (n, d) => (blockItems? fuel d).map fun (ns, d) => (n :: ns, d)
    | .blockEnd :: _ => some ([], d.next)
    | _ => none

/-- The items of a list at the column of its key. -/
def indentlessItems? : Nat → Document → Option (List Node × Document)
  | 0, _ => none
  | fuel + 1, d =>
    match d.tokens with
    | .blockEntry :: _ =>
      let d := d.next
      let item :=
        if d.at_ [.blockEntry, .key, .value, .blockEnd] then some (.empty, d)
        else node? true false fuel d
      match item with
      | none => none
      | some (n, d) => (indentlessItems? fuel d).map fun (ns, d) => (n :: ns, d)
    | _ => some ([], d)

/-- The entries of a mapping with its own indentation, up to its end. -/
def blockFields? : Nat → Document → Option (List (Node × Node) × Document)
  | 0, _ => none
  | fuel + 1, d =>
    match d.tokens with
    | .key :: _ =>
      let d := d.next
      let key :=
        if d.at_ [.key, .value, .blockEnd] then some (.empty, d) else node? true true fuel d
      match key with
      | none => none
      | some (k, d) =>
        match blockValue? fuel d with
        | none => none
        | some (v, d) => (blockFields? fuel d).map fun (fs, d) => ((k, v) :: fs, d)
    | .blockEnd :: _ => some ([], d.next)
    | _ => none

/-- The value of an entry. -/
def blockValue? : Nat → Document → Option (Node × Document)
  | 0, _ => none
  | fuel + 1, d =>
    match d.tokens with
    | .value :: _ =>
      let d := d.next
      if d.at_ [.key, .value, .blockEnd] then some (.empty, d) else node? true true fuel d
    | _ => some (.empty, d)

/-- The items in brackets, up to the closing one. -/
def flowItems? (first : Bool) : Nat → Document → Option (List Node × Document)
  | 0, _ => none
  | fuel + 1, d =>
    if d.at_ [.flowSequenceEnd] then some ([], d.next)
    else if !first && !d.at_ [.flowEntry] then none
    else
      let d := if first then d else d.next
      if d.at_ [.flowSequenceEnd] then some ([], d.next)
      else
        let item := if d.at_ [.key] then flowPair? fuel d.next else node? false false fuel d
        match item with
        | none => none
        | some (n, d) => (flowItems? false fuel d).map fun (ns, d) => (n :: ns, d)

/-- A single pair of key and value as an item in brackets. Where the key is left out, the sign
behind it is skipped. -/
def flowPair? : Nat → Document → Option (Node × Document)
  | 0, _ => none
  | fuel + 1, d =>
    let key :=
      if d.at_ [.value, .flowEntry, .flowSequenceEnd] then some (.empty, d.next)
      else node? false false fuel d
    match key with
    | none => none
    | some (k, d) =>
      let value :=
        if d.at_ [.value] then
          let d := d.next
          if d.at_ [.flowEntry, .flowSequenceEnd] then some (.empty, d)
          else node? false false fuel d
        else some (.empty, d)
      value.map fun (v, d) => (.mapping [(k, v)], d)

/-- The entries in braces, up to the closing one. -/
def flowFields? (first : Bool) : Nat → Document → Option (List (Node × Node) × Document)
  | 0, _ => none
  | fuel + 1, d =>
    if d.at_ [.flowMappingEnd] then some ([], d.next)
    else if !first && !d.at_ [.flowEntry] then none
    else
      let d := if first then d else d.next
      if d.at_ [.flowMappingEnd] then some ([], d.next)
      else
        match flowField? fuel d with
        | none => none
        | some (f, d) => (flowFields? false fuel d).map fun (fs, d) => (f :: fs, d)

/-- One entry in braces. -/
def flowField? : Nat → Document → Option ((Node × Node) × Document)
  | 0, _ => none
  | fuel + 1, d =>
    if d.at_ [.key] then
      let d := d.next
      let key :=
        if d.at_ [.value, .flowEntry, .flowMappingEnd] then some (.empty, d)
        else node? false false fuel d
      match key with
      | none => none
      | some (k, d) =>
        let value :=
          if d.at_ [.value] then
            let d := d.next
            if d.at_ [.flowEntry, .flowMappingEnd] then some (.empty, d)
            else node? false false fuel d
          else some (.empty, d)
        value.map fun (v, d) => ((k, v), d)
    else (node? false false fuel d).map fun (k, d) => ((k, .empty), d)

end

/-- The directives at the beginning of a document. There is at most one for the version, which has
to be 1.1 or 1.2, and one for each handle. -/
def directives? : Bool → Document → Option Document
  | versioned, ⟨.version major minor :: ts, anchors, handles⟩ =>
    if versioned || major != 1 || !(minor == 1 || minor == 2) then none
    else directives? true ⟨ts, anchors, handles⟩
  | versioned, ⟨.tagShorthand handle start :: ts, anchors, handles⟩ =>
    if (handles.lookup handle).isSome then none
    else directives? versioned ⟨ts, anchors, (handle, start) :: handles⟩
  | _, d => some d
termination_by _ d => d.tokens.length

/-- The handles that every document knows. -/
def knownHandles : List (List Char × List Char) := [
  (['!'], ['!']), (['!', '!'], "tag:yaml.org,2002:".toList)]

/-- Whether nothing but ends of documents is left. -/
def isOver (d : Document) : Bool := d.tokens.all fun t => t = .documentEnd

/-- The only node of a document. -/
def only? (d : Document) : Option Node :=
  let explicit := d.tokens.head?.any fun t =>
    match t with
    | .version .. | .tagShorthand .. | .documentStart => true
    | _ => false
  if d.tokens.isEmpty then some .empty
  else
    match d.directives? false with
    | none => none
    | some d =>
      let d := { d with handles := d.handles ++ knownHandles }
      if explicit && !d.at_ [.documentStart] then none
      else
        let d := if explicit then d.next else d
        let body :=
          if explicit && (d.tokens.head?.all fun t =>
              match t with
              | .version .. | .tagShorthand .. | .documentStart | .documentEnd => true
              | _ => false) then
            some (.empty, d)
          else node? true false (4 * d.tokens.length + 4) d
        match body with
        | none => none
        | some (n, d) => if d.isOver then some n else none

end Document

/-- The only document of a text. -/
def Node.parse? (s : String) : Option Node :=
  match tokens? s with
  | none => none
  | some ts => Document.only? { tokens := ts }

end ImageSync.Yaml
