import ImageFiling.Settings.Basic

/-!
# Logging

Entries of the log have a level; a run keeps those from its own level on. They go to the terminal
and to a log file, if that can be opened.
-/

namespace ImageFiling

inductive LogLevel where
  | all
  | debug
  | info
  | warning
  | error
  | critical
  deriving DecidableEq, Repr

structure LogEntry where
  level : LogLevel
  message : Text
  deriving DecidableEq, Repr

namespace LogLevel

def name : LogLevel → Text
  | all => "NOTSET"
  | debug => "DEBUG"
  | info => "INFO"
  | warning => "WARNING"
  | error => "ERROR"
  | critical => "CRITICAL"

/-- The levels by name; two have a second one. -/
def named : List (Text × LogLevel) :=
  [("CRITICAL", critical), ("FATAL", critical), ("ERROR", error), ("WARN", warning),
    ("WARNING", warning), ("INFO", info), ("DEBUG", debug), ("NOTSET", all)]

def rank : LogLevel → Nat
  | all => 0
  | debug => 10
  | info => 20
  | warning => 30
  | error => 40
  | critical => 50

end LogLevel

/-- Why a log cannot be set up: there is no such level, or the path of the log file is none. A log
file that cannot be opened is no fault. -/
inductive LoggingFault where
  | unknownLevel (name : Text)
  | nullInPath
  deriving DecidableEq, Repr

def LoggingFault.message : LoggingFault → Text
  | unknownLevel name => "Unknown level: " ++ name.quoted
  | nullInPath => "embedded null byte"

/-- Where the log of a run goes: its least level, and the log file if it can be opened. -/
structure Logging where
  level : LogLevel
  file : Option FilePath
  deriving DecidableEq, Repr

namespace Logging

/-- The log file at a path, if one can stand there: there is a directory for it, and no directory in
its place. Whether a file that is there may be written is not known. -/
def writable? (files : Files) (path : FilePath) : Option FilePath :=
  let path := path.collapse
  match files.find? { path with names := path.names.dropLast }, files.find? path with
  | .ok (some .directory), .ok (some .directory) | .ok (some .directory), .ok (some (.locked _)) =>
    none
  | .ok (some .directory), .ok _ => some path
  | _, _ => none

def ofSettings (s : Settings) (files : Files) : Except LoggingFault Logging :=
  let name := Text.upper s.logLevel
  match LogLevel.named.lookup name with
  | none => .error (.unknownLevel name)
  | some level =>
    if s.logFile.text.contains '\x00' then .error .nullInPath
    else .ok ⟨level, writable? files s.logFile⟩

def reportsNoFile (l : Logging) : Bool :=
  l.file.isNone && l.level.rank ≤ LogLevel.error.rank

end Logging

end ImageFiling
