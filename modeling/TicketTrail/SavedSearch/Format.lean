import TicketTrail.Files
import TicketTrail.SavedSearch
import TicketTrail.Text.Blank
import TicketTrail.Yaml.Document

/-!
# The form of a file of saved searches

Each document of the file is one search. A document without a value has no title, no description and
no criteria. Keys of the document that mean nothing are passed over, but a key among the criteria
must be one of them. Every key is given once.
-/

namespace TicketTrail

namespace SavedSearch

/-- Why a document is no saved search. -/
inductive Fault where
  | malformed
  | expected (what : String)
  | duplicateKey (name : String)
  /-- A key that is no criterion. -/
  | unknownKey (name : String)
deriving Repr, DecidableEq

/-- The keys of the criteria, in the order in which messages list them. -/
def criteriaKeys : List String :=
  ["text_query", "tag", "created-after", "updated-after", "column", "priority", "status",
    "show-history", "show-metadata"]

/-- The fault as it is told. -/
def Fault.message : Fault → String
  | malformed => "malformed YAML"
  | expected what => "expected " ++ what
  | duplicateKey name => "duplicate field \x60" ++ name ++ "\x60"
  | unknownKey name =>
    "unknown field \x60" ++ name ++ "\x60, expected one of " ++
      String.intercalate ", " (criteriaKeys.map fun key => "\x60" ++ key ++ "\x60")

/-- A scalar, which may be missing. -/
def scalarOf (what : String) : Yaml → Except Fault (Option Yaml.Scalar)
  | .scalar s =>
    if s.isNull then .ok none
    else if s.isTaggedNull then .error (.expected "no value")
    else .ok (some s)
  | .cut => .error .malformed
  | _ => .error (.expected what)

/-- A text that may be missing. -/
def textOf (node : Yaml) : Except Fault (Option String) :=
  (scalarOf "a text" node).map fun s => s.map (·.text)

/-- A truth value. -/
def boolOf : Yaml → Except Fault Bool
  | .scalar s =>
    match s.toBool? with
    | some b => .ok b
    | none => .error (.expected "true or false")
  | .cut => .error .malformed
  | _ => .error (.expected "true or false")

/-- A number of days, which may be missing. -/
def daysOf (node : Yaml) : Except Fault (Option UInt32) := do
  match ← scalarOf "a number of days" node with
  | none => return none
  | some s =>
    match s.toNat? with
    | some n =>
      if n < UInt32.size then return some (UInt32.ofNat n)
      else .error (.expected "a number of days")
    | none => .error (.expected "a number of days")

/-- The pairs of a mapping; a plain scalar with nothing in it is one without pairs. -/
def pairsOf : Yaml → Except Fault (List (Yaml × Yaml))
  | .mapping pairs => .ok pairs
  | .scalar s =>
    if s.style = .plain ∧ s.text.isEmpty then .ok [] else .error (.expected "a mapping")
  | .cut => .error .malformed
  | _ => .error (.expected "a mapping")

/-- The name that a key is. -/
def nameOf : Yaml → Except Fault String
  | .scalar s => .ok s.text
  | .cut => .error .malformed
  | _ => .error (.expected "a key")

/-- Reads the pairs of a mapping in the document `d` in order with `step`, which is told whether a
key comes for the first time. -/
def foldPairs {α : Type} (d : Yaml.Document) (step : α → Bool → String → Yaml → Except Fault α)
    (seen : List String) (start : α) : List (Yaml × Yaml) → Except Fault α
  | [] => .ok start
  | (key, value) :: rest => do
    let name ← nameOf (d.resolve key)
    let next ← step start (!seen.contains name) name (d.resolve value)
    foldPairs d step (name :: seen) next rest

/-- Reads one of the criteria. -/
def criterion (c : Criteria) (isFirst : Bool) (name : String) (value : Yaml) :
    Except Fault Criteria :=
  if !criteriaKeys.contains name then .error (.unknownKey name)
  else if !isFirst then .error (.duplicateKey name)
  else
    match name with
    | "text_query" => (textOf value).map fun query => { c with query }
    | "tag" => (textOf value).map fun tag => { c with tag }
    | "created-after" => (daysOf value).map fun createdAfter => { c with createdAfter }
    | "updated-after" => (daysOf value).map fun updatedAfter => { c with updatedAfter }
    | "column" => (textOf value).map fun column => { c with column }
    | "priority" => (textOf value).map fun priority => { c with priority }
    | "status" => (textOf value).map fun status => { c with status }
    | "show-history" => (boolOf value).map fun showHistory => { c with showHistory }
    | _ => (boolOf value).map fun showMetadata => { c with showMetadata }

/-- Reads criteria. -/
def criteriaOf (d : Yaml.Document) (node : Yaml) : Except Fault Criteria := do
  foldPairs d criterion [] {} (← pairsOf node)

/-- A document as far as it was read. -/
structure Draft where
  title : Option String := none
  description : Option String := none
  criteria : Criteria := {}

/-- The keys of a document that mean something. -/
def documentKeys : List String := ["title", "description", "search"]

/-- Reads one key of the document `d`. -/
def documentKey (d : Yaml.Document) (draft : Draft) (isFirst : Bool) (name : String)
    (value : Yaml) : Except Fault Draft :=
  if !documentKeys.contains name then .ok draft
  else if !isFirst then .error (.duplicateKey name)
  else
    match name with
    | "title" => (textOf value).map fun title => { draft with title }
    | "description" => (textOf value).map fun description => { draft with description }
    | _ => (criteriaOf d value).map fun criteria => { draft with criteria }

/-- Reads the document with the given number. What can be read of a document that is not whole may
have another fault, which then counts. -/
def ofDocument (number : Nat) (d : Yaml.Document) : Except Fault SavedSearch := do
  let draft ← foldPairs d (documentKey d) [] {} (← pairsOf d.root)
  if d.isWhole then
    return {
      title := draft.title.getD (defaultTitle number)
      description := draft.description
      criteria := draft.criteria }
  else .error .malformed

end SavedSearch

/-- Why a file of saved searches is refused. -/
inductive SavedSearchError where
  /-- The file cannot be read. -/
  | unreadable (path reason : String)
  /-- The document with the given number is no saved search. -/
  | malformed (path : String) (document : Nat) (fault : SavedSearch.Fault)
  /-- The file is blank. -/
  | noDocuments (path : String)
deriving Repr, DecidableEq

/-- The error as it is told. -/
def SavedSearchError.message : SavedSearchError → String
  | unreadable path reason => "Failed to read template " ++ path ++ ": " ++ reason ++ ": " ++ reason
  | malformed path document fault =>
    "Failed to parse template " ++ path ++ ", document " ++ toString document ++ ": " ++
      fault.message ++ ": " ++ fault.message
  | noDocuments path => "Template " ++ path ++ " contains no documents"

namespace SavedSearch

/-- Reads documents, the first of which has the given number; the first faulty one is reported. -/
def ofDocuments (path : String) (number : Nat) :
    List Yaml.Document → Except SavedSearchError (List SavedSearch)
  | [] => .ok []
  | d :: rest =>
    match ofDocument number d with
    | .error fault => .error (.malformed path number fault)
    | .ok search => (ofDocuments path (number + 1) rest).map (search :: ·)

/-- Reads the text of a file of saved searches. -/
def parse (path text : String) : Except SavedSearchError (List SavedSearch) :=
  if Text.allBlank text then .error (.noDocuments path)
  else ofDocuments path 1 (Yaml.Document.ofString text)

/-- Reads a file of saved searches. -/
def load (files : Files) (path : String) : Except SavedSearchError (List SavedSearch) :=
  match files.read path with
  | .ok text => parse path text
  | .error fault => .error (.unreadable path fault.reason)

end SavedSearch

end TicketTrail
