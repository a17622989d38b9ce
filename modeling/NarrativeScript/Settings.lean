import NarrativeScript.Failure
import NarrativeScript.Number.Grouped
import NarrativeScript.Text.UpperCase

/-!
# Settings

Two settings are read from the environment: the limit on nesting and the level
of the log. The limit is an integer in digits of any script; absent or blank
text leaves the default. The level is one of eight names in any case. The limit
is looked at first.
-/

namespace NarrativeScript

inductive LogLevel where
  | critical
  | fatal
  | error
  | warn
  | warning
  | info
  | debug
  | notset
  deriving DecidableEq, Repr

namespace LogLevel

def name : LogLevel → String
  | .critical => "CRITICAL"
  | .fatal => "FATAL"
  | .error => "ERROR"
  | .warn => "WARN"
  | .warning => "WARNING"
  | .info => "INFO"
  | .debug => "DEBUG"
  | .notset => "NOTSET"

def all : List LogLevel :=
  [.critical, .fatal, .error, .warn, .warning, .info, .debug, .notset]

def ofName? (text : String) : Option LogLevel :=
  all.find? fun level => level.name == text

end LogLevel

structure Settings where
  depthLimit : Int
  logLevel : LogLevel
  inRange : Depth.InRange depthLimit
  deriving DecidableEq, Repr

inductive SettingsFault where
  | depthNotInteger (text : String)
  | depthOutOfRange (value : Int)
  | unknownLevel (name : String)
  deriving DecidableEq, Repr

namespace Settings

def depthVariable : String := "STORYSCRIPT_MAX_DEPTH"

def levelVariable : String := "STORYSCRIPT_LOG_LEVEL"

def defaultLevel : String := "INFO"

end Settings

def SettingsFault.message : SettingsFault → String
  | .depthNotInteger text =>
      Settings.depthVariable ++ " must be an integer, got " ++ Text.quoted text
  | .depthOutOfRange value =>
      Settings.depthVariable ++ s!" must be between 1 and {Depth.ceiling}, got {value}"
  | .unknownLevel name =>
      Settings.levelVariable ++ " is not a logging level: " ++ Text.quoted name

namespace Settings

/-- An integer in digits of any script, with no more of them than the limit. -/
def integerText? (text : String) : Option Int :=
  (Number.groupedInteger? Text.decimalDigit? (Text.trimBy Text.isSpace text.toList)).bind
    fun (negative, digits) =>
      if digits.length ≤ Number.Numeral.integerDigitLimit then
        some (Number.signed negative (Text.ofDigits 10 digits))
      else none

def readDepth : Option String → Except SettingsFault Int
  | none => .ok Depth.standard
  | some text =>
      if Text.trimmed text = [] then .ok Depth.standard
      else
        match integerText? text with
        | some value => .ok value
        | none => .error (.depthNotInteger text)

def readLevel (text : Option String) : Except SettingsFault LogLevel :=
  let name := Text.upper (Text.strip (text.getD defaultLevel))
  match LogLevel.ofName? name with
  | some level => .ok level
  | none => .error (.unknownLevel name)

/-- Reads the settings from an environment, given by what each variable holds. -/
def read (environment : String → Option String) : Except SettingsFault Settings :=
  match readDepth (environment depthVariable) with
  | .error fault => .error fault
  | .ok depth =>
      if h : Depth.InRange depth then
        match readLevel (environment levelVariable) with
        | .error fault => .error fault
        | .ok level => .ok ⟨depth, level, h⟩
      else .error (.depthOutOfRange depth)

theorem read_none : read (fun _ => none) = .ok ⟨Depth.standard, .info, Depth.standard_inRange⟩ := by
  have named : readLevel none = .ok .info := by rfl
  rw [read, readDepth]
  simp only [named]
  rw [dif_pos Depth.standard_inRange]

end Settings

end NarrativeScript
