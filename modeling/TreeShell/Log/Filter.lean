import TreeShell.Log.Directive
import TreeShell.Log.Event

/-!
# Log filters

A filter is a list of directives.  Of two directives with the same subject the later one
counts.  The text of a filter has the more specific directives first, and those on spans
after all others.

Whether an event is shown is decided by the most specific directive that concerns it.  The
program opens no spans, so that directives on spans concern no event.
-/

namespace TreeShell.Log

/-- Whether a directive concerns a record: its target begins as that of the record does,
and the record has its field.  The message is a field, too. -/
def Directive.concerns (d : Directive) (r : Record) : Bool :=
  d.target.all (fun t => t.isPrefixOf r.target.toList)
    && d.field.all fun f => String.ofList f.name ∈ "message" :: r.fields.map Prod.fst

/-- A filter, the most specific directives first. -/
structure Filter where
  statics : List Directive
  dynamics : List Directive
deriving DecidableEq, Repr

namespace Filter

/-- The filter of some directives. -/
def ofDirectives (ds : List Directive) : Filter :=
  let dynamics := ds.filter Directive.isDynamic
  let statics := ds.filter (fun d => !d.isDynamic) ++ dynamics.filter Directive.isStatic
  ⟨statics.foldl (fun es d => d.insert es) [], dynamics.foldl (fun es d => d.insert es) []⟩

/-- The filter that a text spells: directives with commas between them. -/
def parse? (text : String) : Option Filter :=
  let pieces := (text.toList.splitOn ',').filter fun p => !p.isEmpty
  (pieces.mapM Directive.ofText?).map ofDirectives

/-- The text of a filter. -/
def render (f : Filter) : String :=
  ",".intercalate ((f.statics ++ f.dynamics).map Directive.render)

/-- The filter of a run: the one that the environment asks for, else the one of the
settings, else warnings and errors. -/
def choose (asked : Option String) (level : String) : Filter :=
  ((asked.bind parse?).or (parse? level)).getD (ofDirectives [{ level := .warn }])

/-- Whether a filter shows an event. -/
def shows (f : Filter) (e : Event) : Bool :=
  (f.statics.find? fun d => d.concerns e.record).any fun d =>
    e.record.level.number ≤ d.level.number

end Filter

end TreeShell.Log
