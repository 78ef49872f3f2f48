import TargetLink.LogFilter.Directive

/-!
# Log filters

The text of a log filter separates directives by commas. A filter keeps them in order, the most
specific first, since the first one that applies to an event decides; `LogFilter.text` writes them
that way. Directives that ask for a span or a field come behind all others.
-/

namespace TargetLink

/-- A filter for events. -/
structure LogFilter where
  /-- The directives on targets, the most specific first. -/
  statics : List Directive
  /-- The directives on spans and fields, the most specific first. -/
  dynamics : List Directive
  deriving DecidableEq

namespace LogFilter

/-- The filter of some directives. -/
def ofDirectives (ds : List Directive) : LogFilter :=
  let collect (ds : List Directive) : List Directive := ds.foldl (fun es d => d.insert es) []
  let dynamics := ds.filter Directive.isDynamic
  let statics := ds.filter (!·.isDynamic) ++ dynamics.filterMap Directive.toStatic?
  { statics := collect statics, dynamics := collect dynamics }

/-- The filter that a text writes. Empty directives do not count. -/
def read? (text : String) : Option LogFilter :=
  let parts := (text.toList.splitOn ',').filter (!·.isEmpty)
  (parts.mapM Directive.read?).map ofDirectives

/-- The level that a number of requests for more log lines asks for. -/
def defaultLevel : Nat → Level
  | 0 => .info
  | 1 => .debug
  | _ => .trace

/-- The directive that a number of requests for more log lines asks for. -/
def defaultDirective (verbosity : Nat) : String :=
  LevelFilter.name (some (defaultLevel verbosity))

/-- The filter of a program: what its environment asks for, if that is a filter, and otherwise what
the number of requests for more log lines asks for. -/
def choose (environment : Option String) (verbosity : Nat) : LogFilter :=
  (environment.bind read?).getD (ofDirectives [{ level := some (defaultLevel verbosity) }])

/-- The text of a filter. -/
def text (f : LogFilter) : String :=
  ",".intercalate ((f.statics ++ f.dynamics).map toString)

/-- The target that the program's events come from. -/
def target : String := "uhtif"

/-- An event passes the filter. The first directive that is about the program's target and no field
decides; without one nothing passes. -/
def passes (f : LogFilter) (e : Event) : Bool :=
  let applies (d : Directive) : Bool :=
    d.field.isNone && d.target.all fun start => target.startsWith start
  match (f.statics.find? applies).bind (·.level) with
  | some level => e.level.rank ≤ level.rank
  | none => false

end LogFilter

end TargetLink
