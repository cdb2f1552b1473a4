import LooseRecords.Yaml.Token

/-!
# Nodes of YAML texts

A text holds one document, whose root is a scalar, a sequence or a mapping. Where a node is due and
none is written, there is an empty plain scalar. An alias stands for a copy of the node that its
anchor marks; within that node itself it has nothing to stand for yet, and is kept as a loop.

A text that holds no document is told apart from one whose document is an empty scalar.
-/

namespace LooseRecords
namespace Yaml

/-- A node. Only scalars keep their tags; the tag `!` on a scalar that is written is none. -/
inductive Node where
  | scalar (text : List Char) (plain : Bool) (tag : Option (List Char))
  | sequence (items : List Node)
  | mapping (entries : List (Node × Node))
  | loop
  deriving Repr

namespace Node

/-- The node where none is written. -/
def empty : Node := .scalar [] true none

/-- What remains to be read, and what was noted on the way. -/
structure State where
  tokens : List Token
  anchors : List (List Char × Node) := []
  /-- The beginnings of tags that directives give to handles. -/
  handles : List (List Char × List Char) := []

/-- A step of reading nodes. -/
abbrev Reader (α : Type) := StateT State Option α

/-- The handles that need no directive. -/
def standardHandles : List (List Char × List Char) :=
  [(['!'], ['!']), (['!', '!'], "tag:yaml.org,2002:".toList), ([], [])]

/-- The next token. -/
def peek : Reader (Option Token) := do
  return (← get).tokens.head?

/-- Passes over the next token. -/
def pass : Reader Unit :=
  modify fun s => { s with tokens := s.tokens.tail }

/-- Passes over the next token if it is the given one, and says whether it is. -/
def passIf (token : Token) : Reader Bool := do
  if (← peek) = some token then
    pass
    return true
  else return false

/-- Whether the next token is one of the given ones. -/
def isNext (tokens : List Token) : Reader Bool := do
  return (← peek).any (· ∈ tokens)

/-- The full text of a tag. -/
def fullTag (handle ending : List Char) : Reader (List Char) := do
  match (← get).handles.lookup handle <|> standardHandles.lookup handle with
  | some start => return start ++ ending
  | none => failure

/-- What stands in front of a node. -/
structure Properties where
  anchor : Option (List Char) := none
  tag : Option (List Char) := none

/-- Whether anything stands in front of a node. -/
def Properties.isEmpty (p : Properties) : Bool :=
  p.anchor.isNone && p.tag.isNone

/-- Reads an anchor and a tag, in any order. -/
def properties : Reader Properties := do
  match ← peek with
  | some (.anchor name) =>
      pass
      match ← peek with
      | some (.tag handle ending) =>
          pass
          return ⟨some name, some (← fullTag handle ending)⟩
      | _ => return ⟨some name, none⟩
  | some (.tag handle ending) =>
      pass
      match ← peek with
      | some (.anchor name) =>
          pass
          return ⟨some name, some (← fullTag handle ending)⟩
      | _ => return ⟨none, some (← fullTag handle ending)⟩
  | _ => return {}

/-- Notes the node that an anchor marks. -/
def note (name : List Char) (node : Node) : Reader Unit :=
  modify fun s => { s with anchors := (name, node) :: s.anchors }

/-- Reads what an anchor marks. -/
def anchored (anchor : Option (List Char)) (content : Reader Node) : Reader Node :=
  match anchor with
  | none => content
  | some name => do
      note name .loop
      let node ← content
      note name node
      return node

/-- Reads items in brackets; `item` reads one. -/
def flowItems (item : Reader Node) :
    (fuel : Nat) → (isFirst : Bool) → (items : List Node) → Reader (List Node)
  | 0, _, _ => failure
  | fuel + 1, isFirst, items => do
      if ← passIf .flowSequenceEnd then return items.reverse
      else
        if !isFirst then
          if !(← passIf .flowEntry) then failure
        if ← passIf .flowSequenceEnd then return items.reverse
        else flowItems item fuel false ((← item) :: items)

/-- Reads entries in braces; `entry` reads one. -/
def flowEntries (entry : Reader (Node × Node)) :
    (fuel : Nat) → (isFirst : Bool) → (entries : List (Node × Node)) →
      Reader (List (Node × Node))
  | 0, _, _ => failure
  | fuel + 1, isFirst, entries => do
      if ← passIf .flowMappingEnd then return entries.reverse
      else
        if !isFirst then
          if !(← passIf .flowEntry) then failure
        if ← passIf .flowMappingEnd then return entries.reverse
        else flowEntries entry fuel false ((← entry) :: entries)

/-- Reads a node unless one of the given tokens comes next, which leaves it empty. -/
def orEmpty (tokens : List Token) (node : Reader Node) : Reader Node := do
  if ← isNext tokens then return empty else node

/-- Reads the items of a block; `item` reads what follows a hyphen. -/
def blockItems (item : Reader Node) : (fuel : Nat) → (items : List Node) → Reader (List Node)
  | 0, _ => failure
  | fuel + 1, items => do
      if ← passIf .blockEntry then blockItems item fuel ((← item) :: items)
      else return items.reverse

/-- Reads the entries of a block; `key` and `value` read what follows their marks. -/
def blockEntries (key value : Reader Node) :
    (fuel : Nat) → (entries : List (Node × Node)) → Reader (List (Node × Node))
  | 0, _ => failure
  | fuel + 1, entries => do
      if ← passIf .blockEnd then return entries.reverse
      else
        let k ← if ← passIf .key then key else failure
        let v ← if ← passIf .value then value else pure empty
        blockEntries key value fuel ((k, v) :: entries)

/-- Reads a node. Blocks are read where `inBlock` says so, and items without an indentation of their
own where `indentless` does. Every level of nesting takes a token. -/
def read : (fuel : Nat) → (inBlock indentless : Bool) → Reader Node
  | 0, _, _ => failure
  | fuel + 1, inBlock, indentless => do
      let rounds := (← get).tokens.length + 1
      match ← peek with
      | some (.alias name) =>
          pass
          match (← get).anchors.lookup name with
          | some node => return node
          | none => failure
      | _ =>
          let found ← properties
          anchored found.anchor do
            match ← peek with
            | some .blockEntry =>
                if indentless then
                  let item := orEmpty [.blockEntry, .key, .value, .blockEnd] (read fuel true false)
                  return .sequence (← blockItems item rounds [])
                else if found.isEmpty then failure
                else return .scalar [] true found.tag
            | some (.scalar text plain) =>
                pass
                return .scalar text plain (found.tag.filter (· ≠ ['!']))
            | some .flowSequenceStart =>
                pass
                let item : Reader Node := do
                  if ← passIf .key then
                    let k ← orEmpty [.value, .flowEntry, .flowSequenceEnd] (read fuel false false)
                    let v ←
                      if ← passIf .value then
                        orEmpty [.flowEntry, .flowSequenceEnd] (read fuel false false)
                      else pure empty
                    return .mapping [(k, v)]
                  else read fuel false false
                return .sequence (← flowItems item rounds true [])
            | some .flowMappingStart =>
                pass
                let valueOf : Reader Node := do
                  if ← passIf .value then
                    orEmpty [.flowEntry, .flowMappingEnd] (read fuel false false)
                  else return empty
                let entry : Reader (Node × Node) := do
                  if ← passIf .key then
                    let k ← orEmpty [.value, .flowEntry, .flowMappingEnd] (read fuel false false)
                    return (k, ← valueOf)
                  else
                    return (← read fuel false false, empty)
                return .mapping (← flowEntries entry rounds true [])
            | some .blockSequenceStart =>
                if inBlock then
                  pass
                  let item := orEmpty [.blockEntry, .blockEnd] (read fuel true false)
                  let items ← blockItems item rounds []
                  if ← passIf .blockEnd then return .sequence items else failure
                else if found.isEmpty then failure
                else return .scalar [] true found.tag
            | some .blockMappingStart =>
                if inBlock then
                  pass
                  let part := orEmpty [.key, .value, .blockEnd] (read fuel true true)
                  return .mapping (← blockEntries part part rounds [])
                else if found.isEmpty then failure
                else return .scalar [] true found.tag
            | _ => if found.isEmpty then failure else return .scalar [] true found.tag

/-- Reads the directives in front of a document and says whether there were any. -/
def directives : (fuel : Nat) → (isFirst versioned : Bool) → Reader Bool
  | 0, _, _ => failure
  | fuel + 1, isFirst, versioned => do
      match ← peek with
      | some .versionDirective =>
          if versioned then failure
          else
            pass
            directives fuel false true
      | some (.tagDirective handle start) =>
          pass
          let s ← get
          if (s.handles.lookup handle).isSome then failure
          else
            set { s with handles := (handle, start) :: s.handles }
            directives fuel false versioned
      | _ => return !isFirst

/-- Reads the root of the document after its start. -/
def root (fuel : Nat) : Reader Node := do
  match ← peek with
  | none | some .versionDirective | some (.tagDirective _ _) | some .documentStart
  | some .documentEnd => return empty
  | _ => read fuel true false

/-- Passes over marks of the end of a document. -/
def passEnds : (fuel : Nat) → Reader Unit
  | 0 => return
  | fuel + 1 => do
      if ← passIf .documentEnd then passEnds fuel else return

/-- Reads the only document of a text, if there is one. -/
def document (fuel : Nat) : Reader (Option Node) := do
  if (← peek).isNone then return none
  else
    let directed ← directives fuel true false
    let node ←
      if ← passIf .documentStart then root fuel
      else if directed then failure
      else read fuel true false
    passEnds fuel
    if (← peek).isSome then failure else return some node

/-- The root of the document that a text holds: no result where the text is badly written or holds
several documents, and no root where it holds none. -/
def ofChars? (cs : List Char) : Option (Option Node) := do
  let tokens ← Token.ofChars? cs
  let (node, _) ← (document (tokens.length + 1)).run { tokens := tokens }
  some node

end Node
end Yaml
end LooseRecords
