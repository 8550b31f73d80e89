import FacetQuery.Log.Filter

/-! What a run of the program leaves behind. -/
namespace FacetQuery

/-- Something told on the side: a message for the user or a log event. -/
inductive Note where
  | message (text : String)
  | event (event : Event)
  deriving DecidableEq, Repr

/-- A note as far as a filter shows it. -/
def Note.render (f : Filter) : Note → String
  | message text => text ++ "\n"
  | event e => if f.shows e then e.render else ""

/-- The result of a command: its success, its output, its notes in order, and the files. -/
structure Report where
  failed : Bool
  output : String
  notes : List Note
  disk : Disk

/-- What the outside sees of a run. -/
structure Outcome where
  exitCode : Nat
  stdout : String
  stderr : String
  disk : Disk

namespace Report

/-- A failure with a message. -/
def failure (disk : Disk) (text : String) : Report := ⟨true, "", [.message text], disk⟩

/-- A success with output. -/
def success (disk : Disk) (text : String) : Report := ⟨false, text, [], disk⟩

variable (r : Report)

/-- Puts notes in front. -/
def after (notes : List Note) : Report := { r with notes := notes ++ r.notes }

/-- A report as a filter shows it. -/
def outcome (f : Filter) : Outcome where
  exitCode := if r.failed then 1 else 0
  stdout := r.output
  stderr := String.join (r.notes.map (Note.render f))
  disk := r.disk

end Report

def errorText (text : String) : String := "error: " ++ text

end FacetQuery
