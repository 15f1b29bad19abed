import DialogueScript.Protocol.Call

/-!
# Open documents

The open documents are kept in the order of their URIs' texts, one document for each URI.
-/

namespace DialogueScript

/-- The open documents. -/
abbrev Documents := List (Uri × Document)

namespace Documents

/-- The document of a URI. -/
def get? (uri : Uri) (docs : Documents) : Option Document := (docs.find? fun d => d.1 == uri).map Prod.snd

/-- The documents without the one of a URI. -/
def erase (uri : Uri) (docs : Documents) : Documents := docs.filter fun d => d.1 != uri

/-- Puts a document in its place. -/
def place (uri : Uri) (document : Document) : Documents → Documents
  | [] => [(uri, document)]
  | d :: rest =>
    if uri.render < d.1.render then (uri, document) :: d :: rest else d :: place uri document rest

/-- The documents with a document for a URI in place of any earlier one. -/
def insert (uri : Uri) (document : Document) (docs : Documents) : Documents := place uri document (erase uri docs)

end Documents

end DialogueScript
