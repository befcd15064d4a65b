import SnapshotEngine.Config.Yaml.Tokens
import SnapshotEngine.Table

/-!
# The document of a YAML text

A document is a tree of scalars, lists and tables.  It is read from the tokens of a
text; a reference to an anchor stands for a copy of what the anchor was put at, and
the copies together are limited in size.  What is missing where something has to be
is a plain scalar with a tilde.

Only the first document of a text is read.  There must be no other one behind it, but
what cannot be read at all there does no harm.
-/

namespace SnapshotEngine.Yaml

/-- A scalar as it is written. -/
structure Scalar where
  /-- The tag in its long form; empty if there is none. -/
  tag : String
  isPlain : Bool
  text : String
deriving DecidableEq, Repr, Inhabited

/-- What is written at one place of a document. -/
inductive Node where
  | scalar (s : Scalar)
  | list (items : List Node)
  | table (entries : List (Node × Node))
deriving Repr, Inhabited

namespace Node

/-- What is missing where something has to be. -/
def missing : Node := .scalar ⟨"", true, "~"⟩

mutual

/-- How deep lists and tables are nested. -/
def depth : Node → Nat
  | .scalar _ => 0
  | .list items => depthOfItems items + 1
  | .table entries => depthOfEntries entries + 1

/-- How deep lists and tables are nested in items. -/
def depthOfItems : List Node → Nat
  | [] => 0
  | item :: more => max (depth item) (depthOfItems more)

/-- How deep lists and tables are nested in entries. -/
def depthOfEntries : List (Node × Node) → Nat
  | [] => 0
  | (key, value) :: more => max (max (depth key) (depth value)) (depthOfEntries more)

end

mutual

/-- The size of a node: lists and tables count for their beginning and their end, and
for what is in them. -/
def size : Node → Nat
  | .scalar _ => 1
  | .list items => sizeOfItems items + 2
  | .table entries => sizeOfEntries entries + 2

/-- The size of items. -/
def sizeOfItems : List Node → Nat
  | [] => 0
  | item :: more => size item + sizeOfItems more

/-- The size of entries. -/
def sizeOfEntries : List (Node × Node) → Nat
  | [] => 0
  | (key, value) :: more => size key + size value + sizeOfEntries more

end

end Node

/-! ## Reading a document -/

/-- The anchors of a document. -/
structure Anchors where
  /-- The number of anchors so far. -/
  count : Nat
  /-- The number of the latest anchor of each name. -/
  numbers : Table String Nat
  /-- What the anchors were put at, as far as it has been read. -/
  nodes : Table Nat Node
deriving Inhabited

namespace Anchors

/-- No anchors. -/
def empty : Anchors := ⟨0, .empty, .empty⟩

/-- Counts a new anchor. -/
def start (name : String) (anchors : Anchors) : Anchors :=
  { anchors with
    count := anchors.count + 1
    numbers := anchors.numbers.insert name anchors.count }

/-- Remembers what an anchor was put at. -/
def finish (number : Nat) (node : Node) (anchors : Anchors) : Anchors :=
  { anchors with nodes := anchors.nodes.insert number node }

/-- What a reference stands for; nothing if the place of the anchor is not over. -/
def get? (anchors : Anchors) (name : String) : Option Node :=
  (anchors.numbers.get? name).bind anchors.nodes.get?

end Anchors

/-- The short forms for the beginning of tags that a document has. -/
abbrev Shortcuts := Table String String

namespace Shortcuts

/-- The beginning of the tags that every document may use. -/
def standard : String := "tag:yaml.org,2002:"

/-- The long form of a tag; nothing if it uses a short form that there is not. -/
def resolve? (shortcuts : Shortcuts) (handle suffix : String) : Option String :=
  match shortcuts.get? handle with
  | some start => some (start ++ suffix)
  | none =>
      if handle = "!!" then some (standard ++ suffix)
      else if isFullHandle handle.toList then none
      else some (handle ++ suffix)

end Shortcuts

/-- What is in front of a node: its anchor, by number, and its tag. -/
structure Properties where
  anchor : Option Nat
  tag : Option String
deriving Repr, Inhabited

/-- The tokens that are left, and what is known so far. -/
structure Reading where
  tokens : List Token
  anchors : Anchors
  /-- The size of all copies. -/
  copied : Nat
deriving Inhabited

namespace Reading

/-- The largest size that all copies may have together. -/
def maxCopied : Nat := 1000000

/-- The beginning of a document. -/
def ofTokens (tokens : List Token) : Reading := ⟨tokens, .empty, 0⟩

/-- Goes on with other tokens. -/
def goTo (tokens : List Token) (r : Reading) : Reading := { r with tokens }

/-- Reads an anchor, if there is one. -/
def readAnchor (r : Reading) : Option Nat × Reading :=
  match r.tokens with
  | .anchor name :: rest =>
      (some r.anchors.count, { r with tokens := rest, anchors := r.anchors.start name })
  | _ => (none, r)

/-- Reads a tag, if there is one. -/
def readTag? (shortcuts : Shortcuts) (r : Reading) : Option (Option String × Reading) :=
  match r.tokens with
  | .tag handle suffix :: rest =>
      (shortcuts.resolve? handle suffix).map fun tag => (some tag, r.goTo rest)
  | _ => some (none, r)

/-- Reads what is in front of a node, in either order. -/
def readProperties? (shortcuts : Shortcuts) (r : Reading) : Option (Properties × Reading) := do
  match r.tokens with
  | .tag _ _ :: _ =>
      let (tag, r) ← r.readTag? shortcuts
      let (anchor, r) := r.readAnchor
      return (⟨anchor, tag⟩, r)
  | _ =>
      let (anchor, r) := r.readAnchor
      if anchor.isNone then return (⟨none, none⟩, r)
      else
        let (tag, r) ← r.readTag? shortcuts
        return (⟨anchor, tag⟩, r)

/-- Copies the node that an anchor was put at. -/
def copy? (name : String) (r : Reading) : Option (Node × Reading) := do
  let node ← r.anchors.get? name
  let copied := r.copied + node.size
  if copied ≤ maxCopied then return (node, { r with copied }) else none

/-- Remembers the node that an anchor was put at. -/
def remember (anchor : Option Nat) (node : Node) (r : Reading) : Reading :=
  match anchor with
  | some number => { r with anchors := r.anchors.finish number node }
  | none => r

/-- Whether what has begun ends with a token, in a block. -/
def endsInBlock : Token → Bool
  | .key | .value | .blockEnd => true
  | _ => false

/-- Whether what has begun ends with a token, in a list that is not indented. -/
def endsInList : Token → Bool
  | .blockItem | .key | .value | .blockEnd => true
  | _ => false

/-- Whether what has begun ends with a token, in a list that is indented. -/
def endsInBlockList : Token → Bool
  | .blockItem | .blockEnd => true
  | _ => false

/-- Whether a key ends with a token, in a table within brackets. -/
def endsFlowKey : Token → Bool
  | .value | .flowItem | .flowTableEnd => true
  | _ => false

/-- Whether a value ends with a token, in a table within brackets. -/
def endsFlowValue : Token → Bool
  | .flowItem | .flowTableEnd => true
  | _ => false

/-- Whether the key of an entry ends with a token, in a list within brackets. -/
def endsPairKey : Token → Bool
  | .value | .flowItem | .flowListEnd => true
  | _ => false

/-- Whether the value of an entry ends with a token, in a list within brackets. -/
def endsPairValue : Token → Bool
  | .flowItem | .flowListEnd => true
  | _ => false

/-- Where a node stands: whether it may be a block, and whether a list in it need not
be indented. -/
structure Place where
  mayBeBlock : Bool
  mayBeFlat : Bool
deriving Repr

/-- Within brackets. -/
def Place.flow : Place := ⟨false, false⟩

/-- In a list that is a block, or outermost. -/
def Place.block : Place := ⟨true, false⟩

/-- In a table that is a block. -/
def Place.entry : Place := ⟨true, true⟩

mutual

/-- Reads a node. -/
def readNode (shortcuts : Shortcuts) : Nat → Place → Reading → Option (Node × Reading)
  | 0, _, _ => none
  | fuel + 1, place, r =>
      match r.tokens with
      | .reference name :: rest => (r.goTo rest).copy? name
      | _ => do
          let (properties, r) ← r.readProperties? shortcuts
          let (node, r) ← readContent shortcuts fuel place properties r
          return (node, r.remember properties.anchor node)

/-- Reads a node behind its anchor and its tag. -/
def readContent (shortcuts : Shortcuts) :
    Nat → Place → Properties → Reading → Option (Node × Reading)
  | 0, _, _, _ => none
  | fuel + 1, place, properties, r =>
      let tag := properties.tag.getD ""
      let bare : Option (Node × Reading) :=
        if properties.anchor.isSome || properties.tag.isSome then
          some (.scalar ⟨tag, true, ""⟩, r)
        else none
      match r.tokens with
      | .scalar isPlain text :: rest => some (.scalar ⟨tag, isPlain, text⟩, r.goTo rest)
      | .flowListStart :: rest =>
          (readFlowItems shortcuts fuel true (r.goTo rest)).map fun s => (.list s.1, s.2)
      | .flowTableStart :: rest =>
          (readFlowEntries shortcuts fuel true (r.goTo rest)).map fun s => (.table s.1, s.2)
      | .blockListStart :: rest =>
          if place.mayBeBlock then
            (readBlockItems shortcuts fuel (r.goTo rest)).map fun s => (.list s.1, s.2)
          else bare
      | .blockTableStart :: rest =>
          if place.mayBeBlock then
            (readBlockEntries shortcuts fuel (r.goTo rest)).map fun s => (.table s.1, s.2)
          else bare
      | .blockItem :: _ =>
          if place.mayBeFlat then
            (readFlatItems shortcuts fuel r).map fun s => (.list s.1, s.2)
          else bare
      | .unreadable :: _ | [] => none
      | _ => bare

/-- Reads a node that is missing if a token ends it at once. -/
def readUnless (shortcuts : Shortcuts) :
    Nat → (Token → Bool) → Place → Reading → Option (Node × Reading)
  | 0, _, _, _ => none
  | fuel + 1, ends, place, r =>
      if r.tokens.head?.any ends then some (.missing, r) else readNode shortcuts fuel place r

/-- Reads a value, which may be missing together with its colon. -/
def readValue (shortcuts : Shortcuts) :
    Nat → (Token → Bool) → Place → Reading → Option (Node × Reading)
  | 0, _, _, _ => none
  | fuel + 1, ends, place, r =>
      match r.tokens with
      | .value :: rest => readUnless shortcuts fuel ends place (r.goTo rest)
      | _ => some (.missing, r)

/-- Reads the entries of a table that is a block. -/
def readBlockEntries (shortcuts : Shortcuts) :
    Nat → Reading → Option (List (Node × Node) × Reading)
  | 0, _ => none
  | fuel + 1, r =>
      let key : Option (Node × Reading) :=
        match r.tokens with
        | .key :: rest => readUnless shortcuts fuel endsInBlock .entry (r.goTo rest)
        | .value :: _ => some (.missing, r)
        | _ => none
      match r.tokens with
      | .blockEnd :: rest => some ([], r.goTo rest)
      | _ => do
          let (key, r) ← key
          let (value, r) ← readValue shortcuts fuel endsInBlock .entry r
          let (more, r) ← readBlockEntries shortcuts fuel r
          return ((key, value) :: more, r)

/-- Reads the items of a list that is a block. -/
def readBlockItems (shortcuts : Shortcuts) : Nat → Reading → Option (List Node × Reading)
  | 0, _ => none
  | fuel + 1, r =>
      match r.tokens with
      | .blockEnd :: rest => some ([], r.goTo rest)
      | .blockItem :: rest => do
          let (item, r) ← readUnless shortcuts fuel endsInBlockList .block (r.goTo rest)
          let (more, r) ← readBlockItems shortcuts fuel r
          return (item :: more, r)
      | _ => none

/-- Reads the items of a list that is not indented. -/
def readFlatItems (shortcuts : Shortcuts) : Nat → Reading → Option (List Node × Reading)
  | 0, _ => none
  | fuel + 1, r =>
      match r.tokens with
      | .blockItem :: rest => do
          let (item, r) ← readUnless shortcuts fuel endsInList .block (r.goTo rest)
          let (more, r) ← readFlatItems shortcuts fuel r
          return (item :: more, r)
      | .unreadable :: _ => none
      | _ => some ([], r)

/-- Reads the items of a list within brackets. -/
def readFlowItems (shortcuts : Shortcuts) : Nat → Bool → Reading → Option (List Node × Reading)
  | 0, _, _ => none
  | fuel + 1, isFirst, r =>
      match r.tokens with
      | .flowListEnd :: rest => some ([], r.goTo rest)
      | first :: rest => do
          let start ← if isFirst then some r.tokens else if first = .flowItem then some rest else none
          match start with
          | .flowListEnd :: rest => return ([], r.goTo rest)
          | .key :: rest =>
              let (item, r) ← readPair shortcuts fuel (r.goTo rest)
              let (more, r) ← readFlowItems shortcuts fuel false r
              return (item :: more, r)
          | _ =>
              let (item, r) ← readNode shortcuts fuel .flow (r.goTo start)
              let (more, r) ← readFlowItems shortcuts fuel false r
              return (item :: more, r)
      | [] => none

/-- Reads an entry of its own in a list within brackets, behind the mark of its key.
Where the key is missing, so is the value. -/
def readPair (shortcuts : Shortcuts) : Nat → Reading → Option (Node × Reading)
  | 0, _ => none
  | fuel + 1, r => do
      let (key, r) ←
        if r.tokens.head?.any endsPairKey then some (.missing, r.goTo (r.tokens.drop 1))
        else readNode shortcuts fuel .flow r
      let (value, r) ← readValue shortcuts fuel endsPairValue .flow r
      return (.table [(key, value)], r)

/-- Reads the entries of a table within brackets. -/
def readFlowEntries (shortcuts : Shortcuts) :
    Nat → Bool → Reading → Option (List (Node × Node) × Reading)
  | 0, _, _ => none
  | fuel + 1, isFirst, r =>
      match r.tokens with
      | .flowTableEnd :: rest => some ([], r.goTo rest)
      | first :: rest => do
          let start ← if isFirst then some r.tokens else if first = .flowItem then some rest else none
          match start with
          | .flowTableEnd :: rest => return ([], r.goTo rest)
          | _ =>
              let (entry, r) ← readFlowEntry shortcuts fuel (r.goTo start)
              let (more, r) ← readFlowEntries shortcuts fuel false r
              return (entry :: more, r)
      | [] => none

/-- Reads an entry of a table within brackets. -/
def readFlowEntry (shortcuts : Shortcuts) : Nat → Reading → Option ((Node × Node) × Reading)
  | 0, _ => none
  | fuel + 1, r =>
      match r.tokens with
      | .key :: rest => do
          let (key, r) ← readUnless shortcuts fuel endsFlowKey .flow (r.goTo rest)
          let (value, r) ← readValue shortcuts fuel endsFlowValue .flow r
          return ((key, value), r)
      | .value :: _ => do
          let (value, r) ← readValue shortcuts fuel endsFlowValue .flow r
          return ((.missing, value), r)
      | _ => do
          let (key, r) ← readNode shortcuts fuel .flow r
          return ((key, .missing), r)

end

end Reading

/-! ## Documents -/

namespace Document

/-- Reads the directives of a document and the mark behind them. -/
def readDirectives : Nat → Bool → Shortcuts → List Token → Option (Shortcuts × List Token)
  | 0, _, _, _ => none
  | fuel + 1, hasVersion, shortcuts, tokens =>
      match tokens with
      | .version :: rest => if hasVersion then none else readDirectives fuel true shortcuts rest
      | .tagShortcut handle start :: rest =>
          if shortcuts.contains handle then none
          else readDirectives fuel hasVersion (shortcuts.insert handle start) rest
      | .documentStart :: rest => some (shortcuts, rest)
      | _ => none

/-- Whether a token belongs to what is around documents. -/
def isAround : Token → Bool
  | .version | .tagShortcut _ _ | .documentStart | .documentEnd | .endOfText => true
  | _ => false

/-- What a document begins with. -/
structure Beginning where
  shortcuts : Shortcuts
  tokens : List Token
  /-- Whether there is nothing in the document. -/
  isEmpty : Bool

/-- The beginning of a document, behind the marks that end others.  Without directives
and a mark it may begin only where `isBare` says so. -/
def begin? (isBare : Bool) (tokens : List Token) : Option Beginning :=
  let start := tokens.dropWhile (· = .documentEnd)
  match start with
  | [] | .endOfText :: _ | .unreadable :: _ => none
  | first :: _ =>
      if isAround first || !isBare then
        (readDirectives (start.length + 1) false .empty start).map fun r =>
          ⟨r.1, r.2, r.2.head?.any isAround⟩
      else some ⟨.empty, start, false⟩

/-- Whether a token begins a node. -/
def beginsNode : Token → Bool
  | .scalar _ _ | .flowListStart | .flowTableStart | .blockListStart | .blockTableStart => true
  | _ => false

/-- Whether there is a document that holds something, be it only the beginning of
it. -/
def isPresent (isBare : Bool) (tokens : List Token) : Bool :=
  match begin? isBare tokens with
  | none => false
  | some beginning =>
      let r := Reading.ofTokens beginning.tokens
      beginning.isEmpty ||
        match r.readProperties? beginning.shortcuts with
        | some (properties, r) =>
            r.tokens.head?.any fun first =>
              beginsNode first
                || ((properties.anchor.isSome || properties.tag.isSome) && first ≠ .unreadable)
        | none => false

/-- Whether the tokens behind a document end it properly and no other one follows. -/
def isLast (tokens : List Token) : Bool :=
  match tokens with
  | .documentEnd :: rest => !isPresent true rest
  | .version :: _ | .tagShortcut _ _ :: _ | .unreadable :: _ => false
  | _ => !isPresent false tokens

end Document

/-- The document that tokens make up; nothing if there is none, or another one. -/
def Node.ofTokens? (tokens : List Token) : Option Node := do
  let beginning ← Document.begin? true tokens
  if beginning.isEmpty then return .missing
  else
    let fuel := 4 * tokens.length + 4
    let (node, r) ← Reading.readNode beginning.shortcuts fuel
      .block (.ofTokens beginning.tokens)
    if Document.isLast r.tokens then return node else none

end SnapshotEngine.Yaml
