import BundleBinding.Registry
import BundleBinding.Yaml.Event
import BundleBinding.Yaml.Token.Lexer

/-!
Documents: the nodes that a YAML text spells. What can be read of a broken text is a document too,
in which the open collections end where the text breaks; `isSound` tells the two apart.
-/

namespace BundleBinding.Yaml

inductive Node where
  | scalar (scalar : Scalar)
  | sequence (items : List Node)
  | mapping (entries : List (Node × Node))
  /-- Stands for the node that has the anchor of that number. -/
  | alias (number : Nat)
  deriving Inhabited

/-- A collection that is still open. -/
structure OpenCollection where
  /-- When it was opened, if it has an anchor. -/
  anchored : Option Nat
  isMapping : Bool
  /-- What it holds so far, the last node first. Keys and values of a mapping alternate. -/
  nodes : List Node

namespace OpenCollection

/-- Keys with the values behind them. -/
def paired : List Node → List (Node × Node)
  | key :: value :: nodes => (key, value) :: paired nodes
  | _ => []

def node (collection : OpenCollection) : Node :=
  if collection.isMapping then .mapping (paired collection.nodes.reverse)
  else .sequence collection.nodes.reverse

end OpenCollection

/-- A document under construction. -/
structure DocumentDraft where
  collections : List OpenCollection
  root : Option Node
  /-- The numbers of the anchors. An anchor's number is the number of names before it. -/
  numbers : Registry String Nat
  /-- When the nodes with an anchor begin. Of two anchors of one number the later one counts. -/
  begins : Registry Nat Nat
  anchored : Registry Nat Node

namespace DocumentDraft

def empty : DocumentDraft :=
  ⟨[], none, .empty, .empty, .empty⟩

/-- Numbers an anchor whose node begins at the given time. -/
def addAnchor (draft : DocumentDraft) (anchor : Option String) (time : Nat) : DocumentDraft :=
  match anchor with
  | none => draft
  | some name =>
      let number := draft.numbers.size
      { draft with
        numbers := draft.numbers.insert name number
        begins := draft.begins.insert number time }

/-- Adds a node to the innermost open collection. -/
def addNode (draft : DocumentDraft) (anchored : Option Nat) (node : Node) : DocumentDraft :=
  let draft :=
    match anchored with
    | some time => { draft with anchored := draft.anchored.insert time node }
    | none => draft
  match draft.collections with
  | [] => { draft with root := some node }
  | collection :: outer =>
      let collection := { collection with nodes := node :: collection.nodes }
      { draft with collections := collection :: outer }

def openCollection (draft : DocumentDraft) (anchor : Option String) (isMapping : Bool)
    (time : Nat) : DocumentDraft :=
  let draft := draft.addAnchor anchor time
  { draft with
    collections := ⟨anchor.map fun _ => time, isMapping, []⟩ :: draft.collections }

def closeCollection (draft : DocumentDraft) : DocumentDraft :=
  match draft.collections with
  | [] => draft
  | collection :: outer =>
      { draft with collections := outer }.addNode collection.anchored collection.node

/-- The draft after the event of the given time. An alias needs an anchor before it. -/
def addEvent (draft : DocumentDraft) (event : Event) (time : Nat) : Option DocumentDraft :=
  match event with
  | .alias name => (draft.numbers.get? name).map fun number => draft.addNode none (.alias number)
  | .scalar anchor scalar =>
      some ((draft.addAnchor anchor time).addNode (anchor.map fun _ => time) (.scalar scalar))
  | .openSequence anchor _ => some (draft.openCollection anchor false time)
  | .openMapping anchor _ => some (draft.openCollection anchor true time)
  | .closeSequence => some draft.closeCollection
  | .closeMapping => some draft.closeCollection

/-- Adds events until one cannot be added; tells whether all were. -/
def addEvents (draft : DocumentDraft) : List Event → Nat → DocumentDraft × Bool
  | [], _ => (draft, true)
  | event :: events, time =>
      match draft.addEvent event time with
      | some draft => draft.addEvents events (time + 1)
      | none => (draft, false)

def closeAll (draft : DocumentDraft) : DocumentDraft :=
  draft.collections.foldl (fun draft _ => draft.closeCollection) draft

end DocumentDraft

structure Document where
  /-- An empty text has no node. -/
  root : Option Node
  /-- The node with the anchor of that number. -/
  target? : Nat → Option Node
  /-- The text is one document and nothing else. -/
  isSound : Bool

namespace Document

/-- The directives in front of a document. There is at most one version, which is 1.1 or 1.2, and
each handle is given one meaning. -/
def readDirectives (versioned : Bool) (handles : TagHandles) :
    List Token → Option (TagHandles × List Token)
  | .version major minor :: rest =>
      if versioned || major ≠ 1 || (minor ≠ 1 && minor ≠ 2) then none
      else readDirectives true handles rest
  | .tagHandle handle expansion :: rest =>
      if (handles.lookup handle).isSome then none
      else readDirectives versioned (handles ++ [(handle, expansion)]) rest
  | tokens => some (handles, tokens)

/-- The events of the document that begins with the tokens. -/
def eventsOf (tokens : List Token) : EventText :=
  match readDirectives false [] tokens with
  | none => ⟨[], none⟩
  | some (handles, .documentStart :: rest) =>
      let content := Goal.nodeUnless [.documentStart, .documentEnd, .streamEnd] .block
      .ofGoals (handles ++ standardHandles) [content] rest
  | some (_, rest) =>
      if rest.length = tokens.length then .ofGoals standardHandles [.node .block] tokens
      else ⟨[], none⟩

def endsText (rest : List Token) : Bool :=
  rest.dropWhile (· == .documentEnd) == [.streamEnd]

def ofTokens (tokens : List Token) : Document :=
  match tokens with
  | .streamStart :: .streamEnd :: _ => ⟨none, fun _ => none, true⟩
  | .streamStart :: rest =>
      let text := eventsOf rest
      let (draft, complete) := DocumentDraft.empty.addEvents text.events 0
      let draft := draft.closeAll
      ⟨draft.root, fun number => (draft.begins.get? number).bind draft.anchored.get?,
        complete && text.rest.any endsText⟩
  | _ => ⟨none, fun _ => none, false⟩

def ofText (text : String) : Document :=
  ofTokens (tokensOf text)

/-! ### Access to nodes -/

/-- The node itself, or the one that an alias stands for. -/
def follow? (document : Document) : Node → Option Node
  | .alias number => document.target? number
  | node => some node

/-- Is nothing written where the node stands? -/
def isBlankNode : Node → Bool
  | .scalar scalar => scalar.plain && scalar.text.isEmpty
  | _ => false

/-- The text of a scalar, whatever its tag and style. -/
def text? (document : Document) (node : Node) : Option String :=
  match document.follow? node with
  | some (.scalar scalar) => some scalar.text
  | _ => none

/-- The items of a sequence. Nothing written is a sequence without items. -/
def items? (document : Document) (node : Node) : Option (List Node) :=
  match document.follow? node with
  | some (.sequence items) => some items
  | some node => if isBlankNode node then some [] else none
  | none => none

/-- The entries of a mapping. Nothing written is a mapping without entries. -/
def entries? (document : Document) (node : Node) : Option (List (Node × Node)) :=
  match document.follow? node with
  | some (.mapping entries) => some entries
  | some node => if isBlankNode node then some [] else none
  | none => none

def isNullWord (text : String) : Bool :=
  text == "null" || text == "Null" || text == "NULL" || text == "~"

/-- A text that may be absent: a plain scalar that is empty or a null word is no text. With a tag
that names the null type it has to be a null word, and with another tag it is a text. -/
def optionalText? (document : Document) (node : Node) : Option (Option String) :=
  match document.follow? node with
  | some (.scalar scalar) =>
      if !scalar.plain then
        some (some scalar.text)
      else
        match scalar.tag with
        | some tag =>
            if tag == "tag:yaml.org,2002:null" then
              if isNullWord scalar.text then some none else none
            else
              some (some scalar.text)
        | none =>
            if scalar.text.isEmpty || isNullWord scalar.text then some none
            else some (some scalar.text)
  | _ => none

/-- A word of a closed set: the text of a scalar, or its local tag if nothing but a null is
written behind it. -/
def word? (document : Document) (node : Node) : Option String :=
  match document.follow? node with
  | some (.scalar scalar) =>
      match scalar.tag.map String.toList with
      | some ('!' :: word) =>
          if scalar.plain && (scalar.text.isEmpty || isNullWord scalar.text) then
            some (if word.isEmpty then "!" else String.ofList word)
          else
            none
      | _ => some scalar.text
  | _ => none

end Document

end BundleBinding.Yaml
