import ClusterLock.Yaml.Lexer
import ClusterLock.Yaml.Value

/-
  Tokens as documents. Each reader takes the tokens from one place on and gives a value, the
  anchors known by then and the tokens left. An alias stands for the value of its anchor; inside
  that value it stands for null.
-/
namespace ClusterLock.Yaml

/-- The tokens left and the anchors known. -/
structure Reading where
  tokens : List Token
  anchors : List (String × Value) := []

/-- The result of a reader. -/
abbrev NodeResult := Except Fault (Value × Reading)

namespace Reading

def peek (r : Reading) : Option Token := r.tokens.head?

def next (r : Reading) : Reading := { r with tokens := r.tokens.tail }

def bind (r : Reading) (name : Option String) (v : Value) : Reading :=
  match name with
  | some name => { r with anchors := (name, v) :: r.anchors }
  | none => r

/-- An anchor and a tag in front of a node, in either order. -/
def properties (r : Reading) : Option String × Option Tag × Reading :=
  match r.tokens with
  | .anchor a :: .tag t :: rest => (some a, some t, { r with tokens := rest })
  | .tag t :: .anchor a :: rest => (some a, some t, { r with tokens := rest })
  | .anchor a :: rest => (some a, none, { r with tokens := rest })
  | .tag t :: rest => (none, some t, { r with tokens := rest })
  | _ => (none, none, r)

end Reading

/-- Adds an entry to a table, whose keys must differ. -/
def addEntry (entries : List (Value × Value)) (k v : Value) :
    Except Fault (List (Value × Value)) :=
  if entries.any fun e => e.1.same k then .error .duplicateKey else .ok (entries ++ [(k, v)])

/-- The tags whose handles are declared. -/
def isDeclared (t : Tag) : Bool := t.handle ∈ ["", "!", standardHandle]

mutual

/-- A node. Blocks may begin here if `block` says so, and the entries of a list that stands at
the column of its key if `bare` says so. -/
def node (block bare : Bool) : Nat → Reading → NodeResult
  | 0, _ => .error .tooLong
  | fuel + 1, r =>
    match r.peek with
    | some (.reference name) =>
      match r.anchors.lookup name with
      | some v => .ok (v, r.next)
      | none => .error .unknownAnchor
    | _ =>
      let (name, tag, r) := r.properties
      if tag.any fun t => !isDeclared t then .error .unknownTag
      else
        let named (x : NodeResult) : NodeResult := do
          let (v, r) ← x
          pure (v, r.bind name v)
        let inside := (r.bind name .null).next
        match r.peek with
        | some .blockEntry =>
          if bare then named (bareEntries fuel [] (r.bind name .null)) else missing name tag r
        | some (.scalar style s) => let v := ofScalar style tag s; .ok (v, r.next.bind name v)
        | some .flowSequenceStart => named (flowItems fuel true [] inside)
        | some .flowMappingStart => named (flowPairs fuel true [] inside)
        | some .blockSequenceStart =>
          if block then named (blockEntries fuel [] inside) else missing name tag r
        | some .blockMappingStart =>
          if block then named (blockPairs fuel [] inside) else missing name tag r
        | _ => missing name tag r

/-- A node with properties but without content is empty. -/
def missing (name : Option String) (tag : Option Tag) (r : Reading) : NodeResult :=
  if name.isSome ∨ tag.isSome then
    let v := match tag with
      | some t => ofScalar .plain (some t) ""
      | none => .null
    .ok (v, r.bind name v)
  else .error .missingNode

/-- The entries of a block list up to its end. -/
def blockEntries : Nat → List Value → Reading → NodeResult
  | 0, _, _ => .error .tooLong
  | fuel + 1, items, r =>
    match r.peek with
    | some .blockEnd => .ok (.list items, r.next)
    | some .blockEntry =>
      let r := r.next
      match r.peek with
      | some .blockEntry | some .blockEnd => blockEntries fuel (items ++ [.null]) r
      | _ => do
        let (v, r) ← node true false fuel r
        blockEntries fuel (items ++ [v]) r
    | _ => .error .missingSeparator

/-- The entries of a list at the column of its key. -/
def bareEntries : Nat → List Value → Reading → NodeResult
  | 0, _, _ => .error .tooLong
  | fuel + 1, items, r =>
    match r.peek with
    | some .blockEntry =>
      let r := r.next
      match r.peek with
      | some .blockEntry | some .key | some .value | some .blockEnd =>
        bareEntries fuel (items ++ [.null]) r
      | _ => do
        let (v, r) ← node true false fuel r
        bareEntries fuel (items ++ [v]) r
    | _ => .ok (.list items, r)

/-- The entries of a block table up to its end. -/
def blockPairs : Nat → List (Value × Value) → Reading → NodeResult
  | 0, _, _ => .error .tooLong
  | fuel + 1, entries, r =>
    match r.peek with
    | some .blockEnd => .ok (.table entries, r.next)
    | some .key => do
      let r := r.next
      let (k, r) ← match r.peek with
        | some .key | some .value | some .blockEnd => pure (.null, r)
        | _ => node true true fuel r
      let (v, r) ← blockValue fuel r
      blockPairs fuel (← addEntry entries k v) r
    | some .value => do
      let (v, r) ← blockValue fuel r
      blockPairs fuel (← addEntry entries .null v) r
    | _ => .error .missingKey

/-- The value of an entry of a block table. -/
def blockValue : Nat → Reading → NodeResult
  | 0, _ => .error .tooLong
  | fuel + 1, r =>
    match r.peek with
    | some .value =>
      let r := r.next
      match r.peek with
      | some .key | some .value | some .blockEnd => .ok (.null, r)
      | _ => node true true fuel r
    | _ => .ok (.null, r)

/-- The items of a flow list up to its end. -/
def flowItems : Nat → Bool → List Value → Reading → NodeResult
  | 0, _, _, _ => .error .tooLong
  | fuel + 1, first, items, r =>
    let item (r : Reading) : NodeResult :=
      match r.peek with
      | some .flowSequenceEnd => .ok (.list items, r.next)
      | some .key => do
        let (pair, r) ← flowPair fuel r.next
        flowItems fuel false (items ++ [pair]) r
      | _ => do
        let (v, r) ← node false false fuel r
        flowItems fuel false (items ++ [v]) r
    match r.peek with
    | some .flowSequenceEnd => .ok (.list items, r.next)
    | some .flowEntry => if first then item r else item r.next
    | _ => if first then item r else .error .missingSeparator

/-- A single entry that stands among the items of a flow list, as a table. -/
def flowPair : Nat → Reading → NodeResult
  | 0, _ => .error .tooLong
  | fuel + 1, r => do
    let (k, r) ← match r.peek with
      | some .value | some .flowEntry | some .flowSequenceEnd => pure (.null, r)
      | _ => node false false fuel r
    match r.peek with
    | some .value =>
      let r := r.next
      match r.peek with
      | some .flowEntry | some .flowSequenceEnd => .ok (.table [(k, .null)], r)
      | _ => do
        let (v, r) ← node false false fuel r
        .ok (.table [(k, v)], r)
    | _ => .ok (.table [(k, .null)], r)

/-- The entries of a flow table up to its end. -/
def flowPairs : Nat → Bool → List (Value × Value) → Reading → NodeResult
  | 0, _, _, _ => .error .tooLong
  | fuel + 1, first, entries, r =>
    let value (r : Reading) : NodeResult :=
      match r.peek with
      | some .value =>
        let r := r.next
        match r.peek with
        | some .flowEntry | some .flowMappingEnd => .ok (.null, r)
        | _ => node false false fuel r
      | _ => .ok (.null, r)
    let pair (r : Reading) : NodeResult :=
      match r.peek with
      | some .flowMappingEnd => .ok (.table entries, r.next)
      | some .key => do
        let r := r.next
        let (k, r) ← match r.peek with
          | some .value | some .flowEntry | some .flowMappingEnd => pure (.null, r)
          | _ => node false false fuel r
        let (v, r) ← value r
        flowPairs fuel false (← addEntry entries k v) r
      | some .value => do
        let (v, r) ← value r
        flowPairs fuel false (← addEntry entries .null v) r
      | _ => do
        let (k, r) ← node false false fuel r
        flowPairs fuel false (← addEntry entries k .null) r
    match r.peek with
    | some .flowMappingEnd => .ok (.table entries, r.next)
    | some .flowEntry => if first then pair r else pair r.next
    | _ => if first then pair r else .error .missingSeparator

end

/-- Directives before a document, which must begin with a mark then. -/
def skipDirectives (ts : List Token) : Except Fault (List Token) :=
  match ts.dropWhile (· == .directive) with
  | .documentStart :: rest => .ok rest
  | _ => .error .badDocument

/-- The documents from one of them on. `unmarked` says that a document may begin without a mark. -/
def documentsFrom : Nat → Bool → List Token → Except Fault (List Value)
  | 0, _, _ => .error .tooLong
  | fuel + 1, unmarked, ts =>
    match ts.dropWhile (· == .documentEnd) with
    | [] => .ok []
    | ts => do
      let marked := ts.head? == some .directive || ts.head? == some .documentStart
      let ts ← if marked ∨ !unmarked then skipDirectives ts else pure ts
      let (v, rest) ← match ts with
        | [] => pure (.null, [])
        | .documentStart :: _ | .documentEnd :: _ | .directive :: _ => pure (.null, ts)
        | _ => do
          let (v, r) ← node true false (4 * ts.length + 4) { tokens := ts }
          pure (v, r.tokens)
      let ended := rest.head? == some .documentEnd
      if !ended ∧ rest.head? = some .directive then .error .badDocument
      let vs ← documentsFrom fuel ended rest
      pure (v :: vs)

/-- The documents of a text. -/
def documents (cs : List Char) : Except Fault (List Value) := do
  let ts ← tokens cs
  documentsFrom (ts.length + 1) true ts

end ClusterLock.Yaml
