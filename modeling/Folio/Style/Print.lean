import Folio.Style.Selector

/-!
# Printed stylesheets

What a stylesheet comes to: comments, links to other sheets and rules with their final values.
`expanded` gives each a line of its own; `closed` leaves out what can be left out.
-/

namespace Folio.Style

/-- What a printed rule holds. -/
inductive Entry
  | comment (s : String)
  /-- A declaration; a value of nothing but empty items counts but is not printed. -/
  | declaration (property : String) (value : String) (isShown : Bool)
  /-- A declaration whose value is printed as it was written. -/
  | custom (property value : String)
  deriving DecidableEq, Repr

inductive Node
  | comment (s : String)
  | link (s : String)
  | rule (selector : Selector) (entries : List Entry)
  deriving DecidableEq, Repr

/-- Whether a comment stays in a compact sheet. -/
def isImportant (comment : String) : Bool :=
  begins "/*!" comment.toList

namespace Entry

def isPrinted (compactly : Bool) : Entry → Bool
  | comment s => !compactly || isImportant s
  | declaration _ _ isShown => isShown
  | custom _ _ => true

/-- Whether a rule is printed for the sake of an entry. -/
def counts (compactly : Bool) : Entry → Bool
  | comment s => !compactly || isImportant s
  | declaration _ _ _ | custom _ _ => true

end Entry

namespace Node

/-- The node without what is not printed; `none` if nothing is left. -/
def published (compactly : Bool) : Node → Option Node
  | comment s => if !compactly || isImportant s then some (comment s) else none
  | link s => some (link s)
  | rule selector entries =>
    let selector := selector.published
    if selector = .done || !entries.any (Entry.counts compactly) then none
    else some (rule selector (entries.filter (Entry.isPrinted compactly)))

/-- Links stand in front of a sheet, with the comments before its first rule; a comment behind a
rule stays there. -/
def arrange (body : List Node) : List Node → List Node × List Node
  | [] => ([], body.reverse)
  | link s :: rest => let (front, body) := arrange body rest; (link s :: front, body)
  | comment s :: rest =>
    if body.isEmpty then let (front, body) := arrange body rest; (comment s :: front, body)
    else arrange (comment s :: body) rest
  | rule selector entries :: rest => arrange (rule selector entries :: body) rest

end Node

/-- A comment with one kind of line ends. -/
def commentText : List Char → List Char
  | '\r' :: '\n' :: r => '\n' :: commentText r
  | c :: r => (if c = '\r' ∨ c = '\x0c' then '\n' else c) :: commentText r
  | [] => []

def printComment (s : String) : String :=
  String.ofList (commentText s.toList)

/-! ## Expanded -/

def Entry.expanded : Entry → String
  | .comment s => "\n  " ++ printComment s
  | .declaration property value _ => "\n  " ++ property ++ ": " ++ value ++ ";"
  | .custom property value => "\n  " ++ property ++ ":" ++ value ++ ";"

def Node.expanded : Node → String
  | .comment s => printComment s
  | .link s => "@import " ++ s ++ ";"
  | .rule selector entries =>
    String.ofList (selector.render false .none) ++ " \x7b"
      ++ String.join (entries.map Entry.expanded) ++ "\n\x7d"

/-- The nodes behind the first ones, with an empty line after each rule. -/
def expandedBody : List Node → String
  | [] => ""
  | [n] => n.expanded ++ "\n"
  | .rule selector entries :: rest =>
    (Node.rule selector entries).expanded ++ "\n\n" ++ expandedBody rest
  | n :: rest => n.expanded ++ "\n" ++ expandedBody rest

/-! ## Closed -/

/-- The entries of a rule; a declaration is ended by a sign where another one follows. -/
def closedEntries : List Entry → String
  | [] => ""
  | .comment s :: rest => printComment s ++ closedEntries rest
  | .declaration property value _ :: rest | .custom property value :: rest =>
    property ++ ":" ++ value ++ (if rest.isEmpty then "" else ";") ++ closedEntries rest

def Node.closed (isLast : Bool) : Node → String
  | .comment s => printComment s
  | .link s => "@import " ++ s ++ (if isLast then "" else ";")
  | .rule selector entries =>
    String.ofList (selector.render true .none) ++ "\x7b" ++ closedEntries entries ++ "\x7d"

def closedBody : List Node → String
  | [] => ""
  | n :: rest => n.closed rest.isEmpty ++ closedBody rest

/-! ## Sheets -/

/-- Whether a text has characters beyond ASCII, which a stylesheet has to announce. -/
def needsCharset (s : String) : Bool :=
  s.toList.any (128 ≤ ·.toNat)

/-- The nodes of a sheet as text. -/
def print (compactly : Bool) (nodes : List Node) : String :=
  let (front, body) := Node.arrange [] (nodes.filterMap (Node.published compactly))
  if compactly then
    let css := closedBody (front ++ body)
    (if needsCharset css then "\ufeff" else "") ++ css ++ (if css.isEmpty then "" else "\n")
  else
    let css := String.join (front.map fun n => n.expanded ++ "\n") ++ expandedBody body
    (if needsCharset css then "@charset \"UTF-8\";\n" else "") ++ css

end Folio.Style
