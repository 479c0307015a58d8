import TicketTrail.Yaml.Node
import TicketTrail.Yaml.Token.Lexer

/-!
# YAML documents

The documents of a text, in order. A malformed text ends with a document that is not whole; what is
known of it can be read all the same.
-/

namespace TicketTrail.Yaml

/-- A document: its events as far as they are known. -/
structure Document where
  events : List Event
  /-- There is no fault in the document. -/
  isWhole : Bool
deriving Repr

namespace Document

/-- A document without content. -/
def empty : Document := { events := [.scalar .absent none], isWhole := true }

/-- The node that the document consists of. -/
def root (d : Document) : Yaml := ofEvents d.events

/-- The last event with the given anchor, and those after it. -/
def lastAnchored (number : Nat) : List Event → Option (List Event)
  | [] => none
  | event :: rest =>
    match lastAnchored number rest with
    | some found => some found
    | none => if event.anchor? = some number then some (event :: rest) else none

/-- The node that an alias stands for; any other node itself. -/
def resolve (d : Document) : Yaml → Yaml
  | .alias number => ofEvents ((lastAnchored number d.events).getD [])
  | node => node

/-- Cuts events into documents; `own` are those of the document that was begun, last first. -/
def split (isWhole : Bool) (own : List Event) : List Event → List Document
  | [] => if isWhole then [] else [{ events := own.reverse, isWhole := false }]
  | .documentEnd :: rest => { events := own.reverse, isWhole := true } :: split isWhole [] rest
  | event :: rest => split isWhole (event :: own) rest

/-- The documents of a text. One with nothing in it has one document without content. -/
def ofString (text : String) : List Document :=
  let (events, isWhole) := Event.ofTokens (Token.ofSource (Source.ofString text))
  match split isWhole [] events with
  | [] => [empty]
  | documents => documents

end Document

end TicketTrail.Yaml
