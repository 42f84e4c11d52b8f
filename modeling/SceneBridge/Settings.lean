import SceneBridge.Convert.Coercion
import SceneBridge.TypeExpr.Grammar

/-!
# Settings

Settings are read from named texts of the environment. A text that makes no sense
leaves the default.
-/

namespace SceneBridge

open Text Number

/-! ## Reading one setting -/

/-- An integer setting: the default if it is missing or unreadable, else at least `least`. -/
def intSetting (raw : Option String) (default least : Option Int) : Option Int :=
  match raw with
  | none => default
  | some s =>
    match readInt? s.toList with
    | none => default
    | some n =>
      match least with
      | some l => some (max n l)
      | none => some n

/-- A truth value setting: a number or a word; the default if it is neither. -/
def boolSetting (raw : Option String) (default : Bool) : Bool :=
  match raw with
  | none => default
  | some s =>
    match readInt? s.toList with
    | some n => n != 0
    | none => (readBool? s).getD default

/-- A text setting; an empty text is a value. -/
def textSetting (raw : Option String) (default : String) : String :=
  raw.getD default

/-! ## All settings -/

/-- The settings of the library. -/
structure Settings where
  /-- What is put in front of the events that an adapter dispatches. -/
  eventPrefix : String
  /-- What is put in front of a class name to make a tag. -/
  tagPrefix : String
  /-- Are alternatives split at every bar? -/
  naiveUnions : Bool
  /-- How many type readings are remembered. -/
  cacheLimit : Nat
  /-- Is every conversion noted? -/
  debugConversions : Bool
deriving Inhabited

/-- Named texts. -/
abbrev Environment := List (String × String)

/-- The settings in an environment. -/
def Settings.load (env : Environment) : Settings where
  eventPrefix := textSetting (env.lookup "TREI_EVENT_PREFIX") "three-"
  tagPrefix := textSetting (env.lookup "TREI_TAG_PREFIX") "three-"
  naiveUnions := boolSetting (env.lookup "TREI_TYPE_NAIVE_UNION_SPLIT") false
  cacheLimit :=
    ((intSetting (env.lookup "TREI_TYPE_CACHE_MAXSIZE") (some 512) (some 0)).getD 0).toNat
  debugConversions := boolSetting (env.lookup "TREI_DEBUG_CONVERSIONS") false

/-- Can a table of remembered readings have the configured size? -/
def Settings.hasTable (s : Settings) : Bool :=
  s.cacheLimit < Nat.pow 2 63

/-- How type texts are read; nothing can be read where the table of readings cannot be made. -/
def Settings.typeReader (s : Settings) : Except Fault (String → TypeExpr) :=
  if s.hasTable then .ok (TypeExpr.ofText s.naiveUnions) else .error .intTooLarge

/-! ## Log levels -/

/-- The names of log levels. -/
def logLevels : List (String × Int) :=
  [("CRITICAL", 50), ("FATAL", 50), ("ERROR", 40), ("WARNING", 30), ("WARN", 30), ("INFO", 20),
    ("DEBUG", 10), ("NOTSET", 0)]

/-- The layout of a log line. -/
def logFormat : String :=
  "%(asctime)s [%(levelname)s] %(name)s: %(message)s"

/-- A letter as a capital, two small letters without a capital of their own included. -/
def capitalChar (c : Char) : Char :=
  if c.toNat == 0x131 then 'I' else if c.toNat == 0x17F then 'S' else c.toUpper

/-- What a log level given as a text or a number stands for. -/
inductive LogLevel where
  | number (n : Int)
  /-- A name of something else than a level. -/
  | misnomer (fault : Fault)

/-- The level that is meant: a level by name, an unknown name standing for the usual level,
or a number. -/
def LogLevel.ofDatum : Datum → Except Fault LogLevel
  | .text name =>
    let upper := name.map capitalChar
    if upper == "BASIC_FORMAT" then .ok (.misnomer (.basic .value "Unknown level"))
    else if upper == "_STYLES" then
      .ok (.misnomer (.basic .type "Level not an integer or a valid string"))
    else .ok (.number ((logLevels.lookup upper).getD 20))
  | d => .number <$> d.toInt

/-- The root of all logs: its level, and its handlers, each with its layout if it has one. -/
structure LogRoot where
  level : Int
  handlers : List (Option String)

namespace LogRoot

/-- A root that nobody has set up, or one that somebody else has. -/
def initial (preconfigured : Bool) : LogRoot :=
  ⟨30, if preconfigured then [none] else []⟩

/-- The layouts of the handlers that have one. -/
def layouts (r : LogRoot) : List String :=
  r.handlers.filterMap id

/-- Sets the root up with one handler, unless it has handlers already. -/
def setUp (r : LogRoot) (level : Datum) : Except Fault LogRoot := do
  let l ← LogLevel.ofDatum level
  if !r.handlers.isEmpty then return r
  match l with
  | .number n => return ⟨n, [some logFormat]⟩
  | .misnomer f => throw f

end LogRoot

end SceneBridge
