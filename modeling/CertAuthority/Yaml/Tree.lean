import CertAuthority.Yaml.TreeReader

/-!
# From tokens to nodes

The rules by which tokens make up nodes, in block form and in flow form.  A key,
a value or an item of which nothing is written is absent.
-/

namespace CertAuthority.Yaml

namespace TreeReader

mutual

/-- Reads a node.  In a block it may be a block, and where a mapping stands around it
(`compact`) a sequence that is not indented further. -/
def readNode : (fuel : Nat) → (block compact : Bool) → TreeReader Node
  | 0, _, _ => failure
  | fuel + 1, block, compact => do
      if let some (.reference name) ← peek then
        take
        return .reference (← anchorNumber name)
      let (name, tag) ← takeProperties
      match ← peek with
      | some (.scalar style text) =>
          take
          let mark ← name.mapM defineAnchor
          return .scalar mark tag style text
      | some .blockEntry =>
          if compact then
            let mark ← name.mapM defineAnchor
            return .sequence mark (← readCompactItems fuel)
          else readEmpty name tag
      | some .flowSequenceStart =>
          take
          let mark ← name.mapM defineAnchor
          return .sequence mark (← readFlowItems fuel true)
      | some .flowMappingStart =>
          take
          let mark ← name.mapM defineAnchor
          return .mapping mark (← readFlowEntries fuel true)
      | some .blockSequenceStart =>
          if block then
            take
            let mark ← name.mapM defineAnchor
            return .sequence mark (← readBlockItems fuel)
          else readEmpty name tag
      | some .blockMappingStart =>
          if block then
            take
            let mark ← name.mapM defineAnchor
            return .mapping mark (← readBlockEntries fuel)
          else readEmpty name tag
      | _ => readEmpty name tag
where
  /-- A node of which only properties are written. -/
  readEmpty (name : Option (List Char)) (tag : Option Octets) : TreeReader Node := do
    if name.isNone ∧ tag.isNone then failure
    else return .scalar (← name.mapM defineAnchor) tag .plain []

/-- Reads the items of a sequence in block form. -/
def readBlockItems : (fuel : Nat) → TreeReader (List Node)
  | 0 => failure
  | fuel + 1 => do
      if ← takeIf .blockEnd then return []
      else
        require .blockEntry
        let item ← if ← atOneOf [.blockEntry, .blockEnd] then pure .absent
          else readNode fuel true false
        return item :: (← readBlockItems fuel)

/-- Reads the items of a sequence that is not indented further than what is around it. -/
def readCompactItems : (fuel : Nat) → TreeReader (List Node)
  | 0 => failure
  | fuel + 1 => do
      if ← takeIf .blockEntry then
        let item ← if ← atOneOf [.blockEntry, .key, .value, .blockEnd] then pure .absent
          else readNode fuel true false
        return item :: (← readCompactItems fuel)
      else return []

/-- Reads the entries of a mapping in block form. -/
def readBlockEntries : (fuel : Nat) → TreeReader (List (Node × Node))
  | 0 => failure
  | fuel + 1 => do
      if ← takeIf .blockEnd then return []
      else
        require .key
        let key ← readPart fuel
        let value ← if ← takeIf .value then readPart fuel else pure .absent
        return (key, value) :: (← readBlockEntries fuel)

/-- Reads a key or a value of a mapping in block form. -/
def readPart : (fuel : Nat) → TreeReader Node
  | 0 => failure
  | fuel + 1 => do
      if ← atOneOf [.key, .value, .blockEnd] then return .absent else readNode fuel true true

/-- Reads the items of a sequence in flow form; a pair among them is a mapping of its own. -/
def readFlowItems : (fuel : Nat) → (first : Bool) → TreeReader (List Node)
  | 0, _ => failure
  | fuel + 1, first => do
      if ← takeIf .flowSequenceEnd then return []
      else
        if !first then require .flowEntry
        if ← takeIf .flowSequenceEnd then return []
        else
          let item ← if ← takeIf .key then readPair fuel else readNode fuel false false
          return item :: (← readFlowItems fuel false)

/-- Reads a pair among the items of a sequence.  An empty key takes the place of the token
after it. -/
def readPair : (fuel : Nat) → TreeReader Node
  | 0 => failure
  | fuel + 1 => do
      let key ←
        if ← atOneOf [.value, .flowEntry, .flowSequenceEnd] then do
          take
          pure .absent
        else readNode fuel false false
      let value ←
        if ← takeIf .value then
          if ← atOneOf [.flowEntry, .flowSequenceEnd] then pure .absent
          else readNode fuel false false
        else pure .absent
      return .mapping none [(key, value)]

/-- Reads the entries of a mapping in flow form. -/
def readFlowEntries : (fuel : Nat) → (first : Bool) → TreeReader (List (Node × Node))
  | 0, _ => failure
  | fuel + 1, first => do
      if ← takeIf .flowMappingEnd then return []
      else
        if !first then require .flowEntry
        if ← takeIf .flowMappingEnd then return []
        else
          let entry ← readFlowEntry fuel
          return entry :: (← readFlowEntries fuel false)

/-- Reads one entry of a mapping in flow form. -/
def readFlowEntry : (fuel : Nat) → TreeReader (Node × Node)
  | 0 => failure
  | fuel + 1 => do
      if ← takeIf .key then
        let key ← if ← atOneOf [.value, .flowEntry, .flowMappingEnd] then pure .absent
          else readNode fuel false false
        let value ←
          if ← takeIf .value then
            if ← atOneOf [.flowEntry, .flowMappingEnd] then pure .absent
            else readNode fuel false false
          else pure .absent
        return (key, value)
      else return (← readNode fuel false false, .absent)

end

end TreeReader

end CertAuthority.Yaml
