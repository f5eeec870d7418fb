import Folio.Text.Lines

/-!
# The log

Messages for the person who builds. The message about each compiled file is left out unless the log
is verbose.
-/

namespace Folio

structure Log where
  verbose : Bool
  /-- The messages so far, newest first. -/
  newest : List String
  deriving DecidableEq, Repr

namespace Log

def empty (verbose : Bool) : Log :=
  ⟨verbose, []⟩

def note (l : Log) (message : String) : Log :=
  { l with newest := message :: l.newest }

def compiled (l : Log) (path : String) : Log :=
  if l.verbose then l.note s!"compiled: {path}" else l

/-- The messages, oldest first. -/
def messages (l : Log) : List String :=
  l.newest.reverse

/-- The lines that are shown. -/
def lines (l : Log) : List String :=
  Text.shownLines l.messages

end Log

end Folio
