/-!
# Log lines

Lines of a log have a level and a target, which says what they are about. A filter keeps those of a
level that is high enough for their target.
-/

namespace VolumeAttacher

/-- The levels, from the most to the least important. -/
inductive LogLevel where
  | error | warn | info | debug | trace
  deriving DecidableEq

/-- A line of a log. -/
structure LogLine where
  level : LogLevel
  target : String
  message : String
  deriving DecidableEq

/-- What is kept of the targets that begin with a text: nothing, or a level and all above it. -/
structure LogDirective where
  target : String
  greatest : Option LogLevel
  deriving DecidableEq

/-- What is kept: the longest directive that fits counts, and otherwise a level for all. -/
structure LogFilter where
  greatest : LogLevel
  directives : List LogDirective
  deriving DecidableEq

namespace LogLevel

def name : LogLevel → String
  | .error => "ERROR"
  | .warn => "WARN"
  | .info => "INFO"
  | .debug => "DEBUG"
  | .trace => "TRACE"

def all : List LogLevel := [.error, .warn, .info, .debug, .trace]

/-- How unimportant a level is. -/
def rank (level : LogLevel) : Nat := all.idxOf level

/-- The level of a name, in letters of either case. -/
def ofName? (name : String) : Option LogLevel :=
  all.find? fun level => level.name = name.toUpper

/-- The level that a setting asks for; one that is not known asks for `info`. -/
def ofSetting (setting : String) : LogLevel := (ofName? setting).getD .info

end LogLevel

namespace LogDirective

/-- The level that a directive names, or its number; `off` keeps nothing. -/
def level? (text : String) : Option (Option LogLevel) :=
  if text.toUpper = "OFF" || text = "0" then some none
  else
    match LogLevel.ofName? text with
    | some level => some (some level)
    | none =>
      (LogLevel.all.find? fun level => toString (level.rank + 1) = text).map some

/-- The directive of a text, if it is about a target. -/
def ofText? (text : String) : Option LogDirective :=
  match text.splitOn "=" with
  | [target] =>
    if target.isEmpty || (level? target).isSome then none else some ⟨target, some .trace⟩
  | [target, level] =>
    if target.isEmpty then none else (level? level).map fun greatest => ⟨target, greatest⟩
  | _ => none

/-- The directives of a list with commas. -/
def ofList (text : String) : List LogDirective := (text.splitOn ",").filterMap ofText?

end LogDirective

namespace LogFilter

/-- The directive that counts for a target. -/
def directive? (filter : LogFilter) (target : String) : Option LogDirective :=
  (filter.directives.filter fun directive => target.startsWith directive.target).foldl
    (fun best directive => match best with
      | some other =>
        if other.target.length ≤ directive.target.length then some directive else some other
      | none => some directive) none

/-- Whether a line is kept. -/
def keeps (filter : LogFilter) (line : LogLine) : Bool :=
  match filter.directive? line.target with
  | some directive => directive.greatest.any fun greatest => line.level.rank ≤ greatest.rank
  | none => line.level.rank ≤ filter.greatest.rank

end LogFilter

end VolumeAttacher
