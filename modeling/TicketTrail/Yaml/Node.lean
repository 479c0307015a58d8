import TicketTrail.Yaml.Event

/-!
# YAML nodes

The nodes of a document, put together from its events. Where the events of a malformed text break
off, the nodes do too.
-/

namespace TicketTrail

/-- A node of a YAML document. -/
inductive Yaml where
  | scalar (value : Yaml.Scalar)
  | sequence (items : List Yaml)
  | mapping (pairs : List (Yaml × Yaml))
  /-- The node with an anchor. -/
  | alias (number : Nat)
  /-- The text breaks off before this node. -/
  | cut
deriving Repr, Inhabited

namespace Yaml

/-- A collection that is being put together, what it holds last first. -/
inductive Collection where
  | sequence (items : List Yaml)
  | mapping (pairs : List (Yaml × Yaml))
  /-- A mapping, and a key that has no value yet. -/
  | pair (key : Yaml) (pairs : List (Yaml × Yaml))

namespace Collection

/-- Adds a node. -/
def add (node : Yaml) : Collection → Collection
  | sequence items => sequence (node :: items)
  | mapping pairs => pair node pairs
  | pair key pairs => mapping ((key, node) :: pairs)

/-- The node of a collection that is complete. -/
def close : Collection → Yaml
  | sequence items => .sequence items.reverse
  | mapping pairs => .mapping pairs.reverse
  | pair key pairs => .mapping ((key, .cut) :: pairs).reverse

/-- The node of a collection that breaks off behind the given node: something is missing after
it. -/
def breakOff (node : Yaml) (c : Collection) : Yaml :=
  (((c.add node).add .cut).add .cut).close

end Collection

/-- Puts a node together from events, inside collections, innermost first. -/
def build : List Collection → List Event → Yaml
  | outer, .alias number :: rest => put (.alias number) outer rest
  | outer, .scalar value _ :: rest => put (.scalar value) outer rest
  | outer, .sequenceStart _ :: rest => build (.sequence [] :: outer) rest
  | outer, .mappingStart _ :: rest => build (.mapping [] :: outer) rest
  | c :: outer, .sequenceEnd :: rest => put c.close outer rest
  | c :: outer, .mappingEnd :: rest => put c.close outer rest
  | outer, _ => outer.foldl Collection.breakOff .cut
where
  /-- Puts a node into the innermost collection; without one, the node is complete. -/
  put (node : Yaml) (outer : List Collection) (rest : List Event) : Yaml :=
    match outer with
    | [] => node
    | c :: outer => build (c.add node :: outer) rest

/-- The node that events begin with. -/
def ofEvents (events : List Event) : Yaml := build [] events

end Yaml

end TicketTrail
