import Parlance.Catalog.Document
import Parlance.Resolver.Report
import Parlance.Resolver.Resolve
import Parlance.Settings.Document
import Parlance.Toml.Parser

/-!
The command line: it resolves the lines of its input against a catalog. What it needs from its
surroundings, the environment and the files, is asked of a host.
-/

namespace Parlance.CommandLine

/-- The answers of the surroundings. -/
structure Host (m : Type → Type) where
  environment : String → m (Option String)
  isFile : String → m Bool
  /-- The text of a file, unless it cannot be read. -/
  readText : String → m (Option String)

structure Arguments where
  config : Option String := none
  catalog : Option String := none
  locale : Option String := none

inductive Failure where
  | missingValue (option : String)
  | unknownArgument (given : String)
  | missingCatalog
  | unreadable (path : String)
  /-- The file is not a document of the wanted form. -/
  | badDocument (path : String)
  | badSettings (fault : SettingsFault)
  | badCatalog (error : CatalogError)

def Failure.message : Failure → String
  | missingValue option => option ++ " needs a value"
  | unknownArgument given => "unknown argument `" ++ given ++ "`"
  | missingCatalog => "--catalog is required"
  | unreadable path => "cannot read " ++ path
  | badDocument path => "cannot parse " ++ path
  | badSettings fault => fault.message
  | badCatalog e =>
    "catalog error in spec `" ++ e.spec ++ "`, phrase " ++ Text.quoted e.phrase ++ ": " ++
      e.fault.message

/-- Reads arguments; absent when help is asked for, which counts before any later argument. -/
def Arguments.read (a : Arguments) : List String → Except Failure (Option Arguments)
  | [] => .ok (some a)
  | "--config" :: value :: rest => read { a with config := some value } rest
  | "--catalog" :: value :: rest => read { a with catalog := some value } rest
  | "--locale" :: value :: rest => read { a with locale := some value } rest
  | arg :: _ =>
    if ["--config", "--catalog", "--locale"].contains arg then .error (.missingValue arg)
    else if ["help", "--help", "-h"].contains arg then .ok none
    else .error (.unknownArgument arg)

/-- A path inside a directory. -/
def joinPath (directory name : String) : String :=
  if directory.isEmpty || directory.toList.getLast? == some '/' then directory ++ name
  else directory ++ "/" ++ name

/-- Where settings are looked for when no file is named. -/
def defaultSettingsPath {m : Type → Type} [Monad m] (h : Host m) : m String := do
  match ← h.environment "NURA_CONFIG" with
  | some path => return path
  | none =>
    let directory ← match ← h.environment "XDG_CONFIG_HOME" with
      | some directory => pure (some directory)
      | none => pure ((← h.environment "HOME").map (joinPath · ".config"))
    match directory with
    | some directory => return joinPath (joinPath directory "nura") "config.toml"
    | none => return "nura.toml"

def readDocument {m : Type → Type} [Monad m] (h : Host m) (path : String) :
    ExceptT Failure m Toml.Fields := do
  match ← h.readText path with
  | none => throw (.unreadable path)
  | some text =>
    match Toml.parse text with
    | .ok fields => return fields
    | .error _ => throw (.badDocument path)

def readSettings {m : Type → Type} [Monad m] (h : Host m) (path : String) :
    ExceptT Failure m Settings := do
  match Settings.ofToml (← readDocument h path) with
  | .ok s => return s
  | .error _ => throw (.badDocument path)

def readCatalog {m : Type → Type} [Monad m] (h : Host m) (path : String) :
    ExceptT Failure m Catalog := do
  match Catalog.ofToml (← readDocument h path) with
  | .ok c => return c
  | .error _ => throw (.badDocument path)

/-- The settings of the named file, or of the file they are looked for in, if it is there. -/
def chooseSettings {m : Type → Type} [Monad m] (h : Host m) (named : Option String) :
    ExceptT Failure m Settings := do
  match named with
  | some path => readSettings h path
  | none =>
    let path ← (defaultSettingsPath h : m String)
    if ← (h.isFile path : m Bool) then readSettings h path else return {}

/-- A resolver at work and the locale asked for. -/
structure Session where
  resolver : Resolver
  locale : Option String

/-- Gets ready for the input; absent when help is asked for. -/
def start {m : Type → Type} [Monad m] (h : Host m) (args : List String) :
    ExceptT Failure m (Option Session) := do
  let some a ← (Arguments.read {} args : Except Failure (Option Arguments)) | return none
  let some catalogPath := a.catalog | throw .missingCatalog
  let settings ← chooseSettings h a.config
  let catalog ← readCatalog h catalogPath
  match Resolver.create settings Lexicon.empty.seed with
  | .error f => throw (.badSettings f)
  | .ok r =>
    match r.loadCatalog catalog with
    | (_, some e) => throw (.badCatalog e)
    | (r, none) => return some ⟨r, a.locale⟩

def stripLineEnd (line : String) : String :=
  let l := line.toList.reverse
  match l with
  | '\n' :: '\r' :: rest | '\n' :: rest => String.ofList rest.reverse
  | _ => line

def Session.answer (s : Session) (today : Calendar.Date) (line : String) :
    Except Failure Json × Session :=
  let (outcome, r) := s.resolver.resolve today (stripLineEnd line) s.locale
  let s := { s with resolver := r }
  match outcome with
  | .error e => (.error (.badCatalog e), s)
  | .ok (resolution, trace) =>
    match r.shownTrace trace with
    | some t => (.ok (.ofFields [("resolution", resolution.toJson), ("trace", t.toJson)]), s)
    | none => (.ok resolution.toJson, s)

end Parlance.CommandLine
