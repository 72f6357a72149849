import MapContext.Yaml.Token

/-!
# Events of YAML text

A document is a series of events: scalars, beginnings and ends of collections, and aliases, which
stand for nodes before them.
-/

namespace MapContext.Yaml

/-- An event of a document; aliases refer to anchors by members of `α`. -/
inductive Event (α : Type) where
  /-- A node that stands here again. -/
  | alias (target : α)
  /-- A scalar. -/
  | scalar (anchor : Option String) (s : Scalar)
  /-- A collection begins. -/
  | begins (anchor : Option String) (isMapping : Bool)
  /-- A collection ends. -/
  | ends
  deriving DecidableEq

/-- The events of a node and the tokens after it. -/
abbrev Step := Option (List (Event String) × List Token)

/-- A scalar of which nothing is written. -/
def Event.empty : Event String := .scalar none ⟨"", .plain, none⟩

/-- What is written before a node. -/
structure Properties where
  /-- Its anchor. -/
  anchor : Option String := none
  /-- Its tag. -/
  tag : Option String := none

/-- The anchor and the tag before a node, in either order, and the tokens after them. -/
def properties? (handles : List (String × String)) : List Token → Option (Properties × List Token)
  | .anchor a :: .tag t :: rest | .tag t :: .anchor a :: rest =>
    (t.full? handles).map fun tag => (⟨some a, some tag⟩, rest)
  | .anchor a :: rest => some (⟨some a, none⟩, rest)
  | .tag t :: rest => (t.full? handles).map fun tag => (⟨none, some tag⟩, rest)
  | rest => some ({}, rest)

/-- Where a node stands. -/
inductive Place where
  /-- Within brackets. -/
  | brackets
  /-- At the top, or as an item. -/
  | block
  /-- As a key or a value, where items need no column of their own. -/
  | entry
  deriving DecidableEq

mutual

/-- A node. Anchor or tag alone stand for an empty scalar. -/
def node (handles : List (String × String)) (fuel : Nat) (place : Place) (ts : List Token) :
    Step :=
  match fuel, ts with
  | 0, _ => none
  | _, .alias name :: rest => some ([.alias name], rest)
  | fuel + 1, ts => do
    let (p, rest) ← properties? handles ts
    let collection (isMapping : Bool) (contents : Step) : Step :=
      contents.map fun (events, rest) => (.begins p.anchor isMapping :: events, rest)
    match rest with
    | .scalar s :: rest => return ([.scalar p.anchor { s with tag := p.tag }], rest)
    | .openSequence :: rest => collection false (bracketItems handles fuel true rest)
    | .openMapping :: rest => collection true (bracketEntries handles fuel true rest)
    | t :: more =>
      if t = .item && place = .entry then collection false (looseItems handles fuel rest)
      else if t = .blockSequence && place ≠ .brackets then
        collection false (blockItems handles fuel more)
      else if t = .blockMapping && place ≠ .brackets then
        collection true (blockEntries handles fuel more)
      else if p.anchor.isSome || p.tag.isSome then
        return ([.scalar p.anchor ⟨"", .plain, p.tag⟩], rest)
      else none
    | [] =>
      if p.anchor.isSome || p.tag.isSome then
        return ([.scalar p.anchor ⟨"", .plain, p.tag⟩], [])
      else none

/-- A node, or an empty scalar before one of the tokens that end it. -/
def nodeBefore (handles : List (String × String)) (fuel : Nat) (place : Place)
    (stops : List Token) (ts : List Token) : Step :=
  match fuel with
  | 0 => none
  | fuel + 1 =>
    if ts.head?.any stops.contains then some ([.empty], ts) else node handles fuel place ts

/-- The items of a sequence with a column of its own. -/
def blockItems (handles : List (String × String)) (fuel : Nat) (ts : List Token) : Step :=
  match fuel, ts with
  | fuel + 1, .item :: rest => do
    let (events, rest) ← nodeBefore handles fuel .block [.item, .blockEnd] rest
    let (more, rest) ← blockItems handles fuel rest
    return (events ++ more, rest)
  | _ + 1, .blockEnd :: rest => some ([.ends], rest)
  | _, _ => none

/-- The items of a sequence in the column of the entry to which it belongs. -/
def looseItems (handles : List (String × String)) (fuel : Nat) (ts : List Token) : Step :=
  match fuel, ts with
  | 0, _ => none
  | fuel + 1, .item :: rest => do
    let (events, rest) ← nodeBefore handles fuel .block [.item, .key, .value, .blockEnd] rest
    let (more, rest) ← looseItems handles fuel rest
    return (events ++ more, rest)
  | _ + 1, rest => some ([.ends], rest)

/-- The entries of a mapping in a column. -/
def blockEntries (handles : List (String × String)) (fuel : Nat) (ts : List Token) : Step :=
  match fuel, ts with
  | fuel + 1, .key :: rest => do
    let stops := [.key, .value, .blockEnd]
    let (key, rest) ← nodeBefore handles fuel .entry stops rest
    let (value, rest) ←
      match rest with
      | .value :: rest => nodeBefore handles fuel .entry stops rest
      | rest => pure ([.empty], rest)
    let (more, rest) ← blockEntries handles fuel rest
    return (key ++ value ++ more, rest)
  | _ + 1, .blockEnd :: rest => some ([.ends], rest)
  | _, _ => none

/-- The items of a sequence in brackets. An item that begins with the mark of a key is a mapping of
one entry; where its key is empty, the next token is taken for it. -/
def bracketItems (handles : List (String × String)) (fuel : Nat) (first : Bool)
    (ts : List Token) : Step :=
  match fuel with
  | 0 => none
  | fuel + 1 => do
    let ts ←
      match first, ts with
      | true, _ | _, .closeSequence :: _ => pure ts
      | false, .comma :: rest => pure rest
      | false, _ => none
    match ts with
    | .closeSequence :: rest => return ([.ends], rest)
    | .key :: rest =>
      let stops := [.comma, .closeSequence]
      let (key, rest) ←
        if rest.head?.any (.value :: stops).contains then pure ([.empty], rest.drop 1)
        else node handles fuel .brackets rest
      let (value, rest) ←
        match rest with
        | .value :: rest => nodeBefore handles fuel .brackets stops rest
        | rest => pure ([.empty], rest)
      let (more, rest) ← bracketItems handles fuel false rest
      return (.begins none true :: key ++ value ++ .ends :: more, rest)
    | ts =>
      let (events, rest) ← node handles fuel .brackets ts
      let (more, rest) ← bracketItems handles fuel false rest
      return (events ++ more, rest)

/-- The entries of a mapping in braces. A key without a mark before it has a value only after a
colon that made it a key. -/
def bracketEntries (handles : List (String × String)) (fuel : Nat) (first : Bool)
    (ts : List Token) : Step :=
  match fuel with
  | 0 => none
  | fuel + 1 => do
    let ts ←
      match first, ts with
      | true, _ | _, .closeMapping :: _ => pure ts
      | false, .comma :: rest => pure rest
      | false, _ => none
    match ts with
    | .closeMapping :: rest => return ([.ends], rest)
    | .key :: rest =>
      let stops := [.comma, .closeMapping]
      let (key, rest) ← nodeBefore handles fuel .brackets (.value :: stops) rest
      let (value, rest) ←
        match rest with
        | .value :: rest => nodeBefore handles fuel .brackets stops rest
        | rest => pure ([.empty], rest)
      let (more, rest) ← bracketEntries handles fuel false rest
      return (key ++ value ++ more, rest)
    | ts =>
      let (key, rest) ← node handles fuel .brackets ts
      let (more, rest) ← bracketEntries handles fuel false rest
      return (key ++ .empty :: more, rest)

end

/-- The handles that directives define, and the tokens after the mark that ends them. The version
is said once at most, and so is what a handle stands for. -/
def directives? (versioned : Bool) (handles : List (String × String)) :
    List Token → Option (List (String × String) × List Token)
  | .directive .version :: rest => if versioned then none else directives? true handles rest
  | .directive (.handle text meaning) :: rest =>
    if (handles.lookup text).isSome then none
    else directives? versioned ((text, meaning) :: handles) rest
  | .documentStart :: rest => some (handles ++ usualHandles, rest)
  | _ => none

/-- Whether the content of a document may begin with a token. -/
def Token.isContent : Token → Bool
  | .directive _ | .documentStart | .documentEnd => false
  | _ => true

/-- The events of the only document, if there is one. -/
def events? (ts : List Token) : Option (List (Event String)) := do
  let fuel := 4 * ts.length + 4
  let (events, rest) ←
    match ts with
    | [] => pure ([], [])
    | .directive _ :: _ | .documentStart :: _ =>
      let (handles, rest) ← directives? false [] ts
      if rest.head?.any Token.isContent then node handles fuel .block rest
      else pure ([.empty], rest)
    | ts => node usualHandles fuel .block ts
  if rest.all (· = .documentEnd) then return events else none

end MapContext.Yaml
