import BundleBinding.Yaml.Token

/-!
Events: a document as the sequence of what its nodes begin with and end with. They are found by
replacing goals with smaller goals, each step by a look at the next token. Where a text cannot be
read further the events stop.
-/

namespace BundleBinding.Yaml

structure Scalar where
  text : String
  /-- Written without quotes and not as a block. -/
  plain : Bool
  tag : Option String
  deriving Repr, DecidableEq

inductive Event where
  | alias (name : String)
  | scalar (anchor : Option String) (scalar : Scalar)
  | openSequence (anchor tag : Option String)
  | closeSequence
  | openMapping (anchor tag : Option String)
  | closeMapping
  deriving Repr, DecidableEq

namespace Event

def empty : Event :=
  .scalar none ⟨"", true, none⟩

end Event

/-! ### Tags and anchors -/

/-- What tag handles stand for. -/
abbrev TagHandles := List (String × String)

/-- The handles that every document knows, unless it gives them another meaning. -/
def standardHandles : TagHandles :=
  [("!", "!"), ("!!", "tag:yaml.org,2002:")]

def resolveTag? (handles : TagHandles) (handle suffix : String) : Option String :=
  if handle.isEmpty then some suffix else (handles.lookup handle).map (· ++ suffix)

structure Properties where
  anchor : Option String
  tag : Option String
  deriving Repr

namespace Properties

def isEmpty (properties : Properties) : Bool :=
  properties.anchor.isNone && properties.tag.isNone

/-- The tag of a scalar. An exclamation mark alone says no more than that it is a scalar. -/
def scalarTag (properties : Properties) : Option String :=
  if properties.tag == some "!" then none else properties.tag

/-- The anchor and the tag at the front, in either order. -/
def read (handles : TagHandles) : List Token → Option (Properties × List Token)
  | .anchor name :: .tag handle suffix :: rest => do
      return (⟨some name, some (← resolveTag? handles handle suffix)⟩, rest)
  | .anchor name :: rest => some (⟨some name, none⟩, rest)
  | .tag handle suffix :: .anchor name :: rest => do
      return (⟨some name, some (← resolveTag? handles handle suffix)⟩, rest)
  | .tag handle suffix :: rest => do
      return (⟨none, some (← resolveTag? handles handle suffix)⟩, rest)
  | tokens => some (⟨none, none⟩, tokens)

theorem length_of_read {handles : TagHandles} {tokens rest : List Token} {properties : Properties}
    (h : read handles tokens = some (properties, rest)) : rest.length ≤ tokens.length := by
  unfold read at h
  split at h
  all_goals
    simp only [Option.bind_eq_bind, Option.bind_eq_some_iff, Option.pure_def, Option.some.injEq,
      Prod.mk.injEq] at h
  · obtain ⟨_, _, _, rfl⟩ := h
    simp
    omega
  · simp [← h.2]
  · obtain ⟨_, _, _, rfl⟩ := h
    simp
    omega
  · obtain ⟨_, _, _, rfl⟩ := h
    simp
  · simp [← h.2]

end Properties

/-! ### Goals -/

/-- Where a node stands. -/
inductive Place where
  | block
  /-- Beside the key of a block mapping, where the dashes of a sequence may stand in the column of
  the key. -/
  | entry
  | flow
  deriving Repr, DecidableEq

inductive Goal where
  | node (place : Place)
  /-- A node, or nothing if one of these tokens comes next. -/
  | nodeUnless (ends : List Token) (place : Place)
  | dashes
  | blockSequence
  | blockMapping
  | blockValue
  | flowSequence (first : Bool)
  | pairKey
  | pairValue
  | pairEnd
  | flowMapping (first : Bool)
  | flowValue
  | noValue
  deriving Repr

/-- What a goal is replaced with. -/
structure Expansion where
  events : List Event
  goals : List Goal
  rest : List Token
  deriving Repr

namespace Goal

/-- The replacement of a node goal. -/
def expandNode (handles : TagHandles) (place : Place) (tokens : List Token) :
    Option Expansion := do
  if let .alias name :: rest := tokens then
    return ⟨[.alias name], [], rest⟩
  let (properties, tokens) ← Properties.read handles tokens
  let anchor := properties.anchor
  let tag := properties.tag
  let absent : Option Expansion :=
    if properties.isEmpty then none
    else some ⟨[.scalar anchor ⟨"", true, tag⟩], [], tokens⟩
  match tokens with
  | [] => none
  | token :: rest =>
      match token with
      | .scalar text plain =>
          return ⟨[.scalar anchor ⟨text, plain, properties.scalarTag⟩], [], rest⟩
      | .openBracket => return ⟨[.openSequence anchor tag], [.flowSequence true], rest⟩
      | .openBrace => return ⟨[.openMapping anchor tag], [.flowMapping true], rest⟩
      | .dash =>
          if place = .entry then return ⟨[.openSequence anchor tag], [.dashes], tokens⟩ else absent
      | .blockSequence =>
          if place = .flow then absent
          else return ⟨[.openSequence anchor tag], [.blockSequence], rest⟩
      | .blockMapping =>
          if place = .flow then absent
          else return ⟨[.openMapping anchor tag], [.blockMapping], rest⟩
      | _ => absent

/-- An item of a flow sequence: a node, or a single pair that is a mapping of its own. -/
def expandItem (tokens : List Token) : Option Expansion :=
  match tokens with
  | [] => none
  | .closeBracket :: rest => some ⟨[.closeSequence], [], rest⟩
  | .key :: rest => some ⟨[.openMapping none none], [.pairKey, .flowSequence false], rest⟩
  | _ => some ⟨[], [.node .flow, .flowSequence false], tokens⟩

/-- An entry of a flow mapping. Its key may have no value. -/
def expandEntry (tokens : List Token) : Option Expansion :=
  match tokens with
  | [] => none
  | .closeBrace :: rest => some ⟨[.closeMapping], [], rest⟩
  | .key :: rest =>
      some ⟨[], [.nodeUnless [.value, .comma, .closeBrace] .flow, .flowValue], rest⟩
  | _ => some ⟨[], [.node .flow, .noValue], tokens⟩

/-- Replaces a goal by a look at the next token. There is no replacement if there is no next token,
or if it does not fit. -/
def expand (handles : TagHandles) (goal : Goal) (tokens : List Token) : Option Expansion :=
  match goal with
  | node place => expandNode handles place tokens
  | nodeUnless ends place =>
      match tokens with
      | [] => none
      | token :: _ =>
          if token ∈ ends then some ⟨[.empty], [], tokens⟩ else some ⟨[], [.node place], tokens⟩
  | dashes =>
      match tokens with
      | [] => none
      | .dash :: rest =>
          some ⟨[], [.nodeUnless [.dash, .key, .value, .blockEnd] .block, .dashes], rest⟩
      | _ => some ⟨[.closeSequence], [], tokens⟩
  | blockSequence =>
      match tokens with
      | .dash :: rest => some ⟨[], [.nodeUnless [.dash, .blockEnd] .block, .blockSequence], rest⟩
      | .blockEnd :: rest => some ⟨[.closeSequence], [], rest⟩
      | _ => none
  | blockMapping =>
      match tokens with
      | .key :: rest => some ⟨[], [.nodeUnless [.key, .value, .blockEnd] .entry, .blockValue], rest⟩
      | .blockEnd :: rest => some ⟨[.closeMapping], [], rest⟩
      | _ => none
  | blockValue =>
      match tokens with
      | [] => none
      | .value :: rest =>
          some ⟨[], [.nodeUnless [.key, .value, .blockEnd] .entry, .blockMapping], rest⟩
      | _ => some ⟨[.empty], [.blockMapping], tokens⟩
  | flowSequence true => expandItem tokens
  | flowSequence false =>
      match tokens with
      | .closeBracket :: rest => some ⟨[.closeSequence], [], rest⟩
      | .comma :: rest => expandItem rest
      | _ => none
  | pairKey =>
      match tokens with
      | [] => none
      | token :: rest =>
          if token ∈ [.value, .comma, .closeBracket] then some ⟨[.empty], [.pairValue], rest⟩
          else some ⟨[], [.node .flow, .pairValue], tokens⟩
  | pairValue =>
      match tokens with
      | [] => none
      | .value :: rest => some ⟨[], [.nodeUnless [.comma, .closeBracket] .flow, .pairEnd], rest⟩
      | _ => some ⟨[.empty], [.pairEnd], tokens⟩
  | pairEnd =>
      match tokens with
      | [] => none
      | _ => some ⟨[.closeMapping], [], tokens⟩
  | flowMapping true => expandEntry tokens
  | flowMapping false =>
      match tokens with
      | .closeBrace :: rest => some ⟨[.closeMapping], [], rest⟩
      | .comma :: rest => expandEntry rest
      | _ => none
  | flowValue =>
      match tokens with
      | [] => none
      | .value :: rest =>
          some ⟨[], [.nodeUnless [.comma, .closeBrace] .flow, .flowMapping false], rest⟩
      | _ => some ⟨[.empty], [.flowMapping false], tokens⟩
  | noValue =>
      match tokens with
      | [] => none
      | _ => some ⟨[.empty], [.flowMapping false], tokens⟩

/-- Bounds the replacements that a goal undergoes before a token is taken. -/
def weight : Goal → Nat
  | node _ => 2
  | nodeUnless _ _ => 3
  | dashes => 1
  | blockSequence => 1
  | blockMapping => 1
  | blockValue => 2
  | flowSequence true => 5
  | flowSequence false => 1
  | pairKey => 5
  | pairValue => 2
  | pairEnd => 1
  | flowMapping true => 5
  | flowMapping false => 1
  | flowValue => 2
  | noValue => 2

def totalWeight : List Goal → Nat
  | [] => 0
  | goal :: goals => goal.weight + totalWeight goals

theorem totalWeight_append (goals others : List Goal) :
    totalWeight (goals ++ others) = totalWeight goals + totalWeight others := by
  induction goals with
  | nil => simp only [List.nil_append, totalWeight, Nat.zero_add]
  | cons goal goals ih => simp only [List.cons_append, totalWeight, ih, Nat.add_assoc]

end Goal

namespace Expansion

/-- What remains to be done, each token being worth more than the goals it can raise. -/
def remaining (goals : List Goal) (tokens : List Token) : Nat :=
  Goal.totalWeight goals + 8 * tokens.length

end Expansion

namespace Goal

open Expansion (remaining)

theorem remaining_expandNode {handles : TagHandles} {place : Place} {tokens : List Token}
    {expansion : Expansion} (h : expandNode handles place tokens = some expansion) :
    remaining expansion.goals expansion.rest < 2 + 8 * tokens.length := by
  unfold expandNode at h
  split at h
  · simp only [Option.pure_def, Option.some.injEq] at h
    subst h
    simp [remaining, totalWeight]
    omega
  · simp only [Option.bind_eq_bind, Option.bind_eq_some_iff] at h
    obtain ⟨⟨properties, rest⟩, hread, h⟩ := h
    have hlength := Properties.length_of_read hread
    have habsent : ∀ anchor tag, (if properties.isEmpty = true then none
        else some (⟨[.scalar anchor ⟨"", true, tag⟩], [], rest⟩ : Expansion)) = some expansion →
        remaining expansion.goals expansion.rest < 2 + 8 * tokens.length := by
      intro anchor tag h
      split at h
      · cases h
      · simp only [Option.some.injEq] at h
        subst h
        simp [remaining, totalWeight]
        omega
    dsimp only at h
    split at h
    · cases h
    · simp only [List.length_cons] at hlength
      split at h
      all_goals first
        | exact habsent _ _ h
        | skip
      all_goals try
        split at h
      all_goals first
        | exact habsent _ _ h
        | skip
      all_goals
        simp only [Option.pure_def, Option.some.injEq] at h
        subst h
        simp [remaining, totalWeight, weight]
        omega

theorem remaining_expandItem {tokens : List Token} {expansion : Expansion}
    (h : expandItem tokens = some expansion) :
    remaining expansion.goals expansion.rest < 5 + 8 * tokens.length := by
  unfold expandItem at h
  split at h
  · cases h
  all_goals
    simp only [Option.some.injEq] at h
    subst h
    simp [remaining, totalWeight, weight]
    try omega

theorem remaining_expandEntry {tokens : List Token} {expansion : Expansion}
    (h : expandEntry tokens = some expansion) :
    remaining expansion.goals expansion.rest < 5 + 8 * tokens.length := by
  unfold expandEntry at h
  split at h
  · cases h
  all_goals
    simp only [Option.some.injEq] at h
    subst h
    simp [remaining, totalWeight, weight]
    try omega

theorem remaining_expand {handles : TagHandles} {goal : Goal} {tokens : List Token}
    {expansion : Expansion} (h : goal.expand handles tokens = some expansion) :
    remaining expansion.goals expansion.rest < goal.weight + 8 * tokens.length := by
  unfold expand at h
  split at h
  case h_1 => exact remaining_expandNode h
  case h_7 => exact remaining_expandItem h
  case h_12 => exact remaining_expandEntry h
  all_goals
    split at h
    all_goals first
      | cases h <;> simp [remaining, totalWeight, weight] <;> omega
      | (split at h <;> cases h <;> simp [remaining, totalWeight, weight] <;> omega)
      | (have shrinks := remaining_expandItem h; simp only [weight, List.length_cons]; omega)
      | (have shrinks := remaining_expandEntry h; simp only [weight, List.length_cons]; omega)

end Goal

/-- The events of a document, and the tokens behind it if it comes to its end. -/
structure EventText where
  events : List Event
  rest : Option (List Token)
  deriving Repr

namespace EventText

/-- Replaces goals until none is left, or until one cannot be replaced. -/
def ofGoals (handles : TagHandles) (goals : List Goal) (tokens : List Token) : EventText :=
  match goals with
  | [] => ⟨[], some tokens⟩
  | goal :: goals =>
      match _h : goal.expand handles tokens with
      | none => ⟨[], none⟩
      | some expansion =>
          let following := ofGoals handles (expansion.goals ++ goals) expansion.rest
          ⟨expansion.events ++ following.events, following.rest⟩
termination_by Expansion.remaining goals tokens
decreasing_by
  have := Goal.remaining_expand _h
  simp only [Expansion.remaining, Goal.totalWeight, Goal.totalWeight_append] at this ⊢
  omega

end EventText

end BundleBinding.Yaml
