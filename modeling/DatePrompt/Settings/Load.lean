import DatePrompt.Prompt.Run
import DatePrompt.Settings.Basic
import DatePrompt.Settings.EnvFile

/-!
# Loading settings

The settings of a prompt come from environment variables and, where there is none, from an
environment file. The names of the variables are matched whatever their case.
-/

namespace DatePrompt

/-- The settings that there are. -/
inductive Setting
  | dateFormat
  | journalFallback
  | logLevel
  deriving DecidableEq, Repr

namespace Setting

def name : Setting → String
  | dateFormat => "date_format"
  | journalFallback => "journal_date_fallback"
  | logLevel => "log_level"

/-- The variable of the setting, in lower case. -/
def envName (s : Setting) : String := "ledger_dates_" ++ s.name

end Setting

/-- Lower case of a character in the name of a variable. Beside the letters of ASCII only the Kelvin
sign has an ASCII letter as its lower case. -/
def lowerCase (c : Char) : Char := if c = '\u212a' then 'k' else c.toLower

/-- Whether a name is that of the variable of a setting. -/
def Setting.IsNamed (s : Setting) (name : String) : Prop :=
  name.toList.map lowerCase = s.envName.toList

instance (s : Setting) (name : String) : Decidable (s.IsNamed name) := by
  unfold Setting.IsNamed; infer_instance

/-- The environment variables and the environment file, if there is one. -/
structure Environment where
  vars : List (String × String)
  file : Option String

/-- The value of a setting. Variables come before the file, and of several spellings of the name the
last one counts. -/
def Environment.value? (env : Environment) (s : Setting) : Option String :=
  match env.vars.reverse.find? (s.IsNamed ·.1) with
  | some (_, v) => some v
  | none =>
    let made := (env.file.map (EnvFile.assignments env.vars)).getD []
    (made.reverse.find? (s.IsNamed ·.name)).bind (·.value)

/-- The texts for yes and for no, in lower case. -/
def yesWords : List String := ["1", "t", "true", "y", "yes", "on"]
def noWords : List String := ["0", "f", "false", "n", "no", "off"]

/-- The truth value that a text spells, in letters of any case. -/
def truthValue? (text : String) : Option Bool :=
  let word := String.ofList (text.toList.map Char.toLower)
  if word ∈ yesWords then some true else if word ∈ noWords then some false else none

/-- The level that a text names in capitals. -/
def LogLevel.ofSetting? : String → Option LogLevel
  | "DEBUG" => some debug
  | "INFO" => some info
  | "WARNING" => some warning
  | "ERROR" => some error
  | _ => none

/-- The level as the settings name it. -/
def LogLevel.settingName : LogLevel → String
  | debug => "DEBUG"
  | info => "INFO"
  | warning => "WARNING"
  | error => "ERROR"

theorem LogLevel.ofSetting?_settingName (l : LogLevel) : ofSetting? l.settingName = some l := by
  cases l <;> rfl

/-- What is wrong with a setting. -/
inductive SettingFault
  | template (e : TemplateError)
  | truthValue
  | level
  deriving DecidableEq, Repr

namespace SettingFault

def setting : SettingFault → Setting
  | template _ => .dateFormat
  | truthValue => .journalFallback
  | level => .logLevel

def message : SettingFault → String
  | template e => "Value error, " ++ e.message
  | truthValue => "Input should be a valid boolean, unable to interpret input"
  | level => "String should match pattern '^(DEBUG|INFO|WARNING|ERROR)$'"

/-- The message with the name of the setting. -/
def report (f : SettingFault) : String := f.setting.name ++ ": " ++ f.message

end SettingFault

namespace Settings

/-- Without any settings, the template is the German one. -/
def defaultTemplate : String := Format.german.template

/-- The faults of an environment, in the order of the settings. -/
def faults (template : Except TemplateError Format) (journal : Option Bool)
    (level : Option LogLevel) : List SettingFault :=
  (match template with
    | .ok _ => []
    | .error e => [.template e]) ++
  (if journal.isSome then [] else [.truthValue]) ++
  (if level.isSome then [] else [.level])

/-- The settings that an environment makes, or all that is wrong with them. -/
def load (env : Environment) : Except (List SettingFault) Settings :=
  let template := (env.value? .dateFormat).getD defaultTemplate
  let journal := match env.value? .journalFallback with
    | some text => truthValue? text
    | none => some true
  let level := match env.value? .logLevel with
    | some text => LogLevel.ofSetting? text
    | none => some .info
  match h : Format.ofTemplate template, journal, level with
  | .ok format, some journal, some level => .ok ⟨template, format, journal, level, h⟩
  | format, journal, level => .error (faults format journal level)

/-- What a check of the settings says about a number of faults. -/
def faultCount (n : Nat) : String :=
  s!"{n} validation error" ++ (if n = 1 then "" else "s") ++ " for DateSettings"

/-- Checks the settings: nothing if they load, otherwise the number of faults in words. -/
def check (env : Environment) : Option String :=
  match load env with
  | .ok _ => none
  | .error faults => some (faultCount faults.length)

end Settings

/-- The outcomes of a session in an environment, unless the settings are faulty. -/
def Environment.runSession (env : Environment) (clock : Clock) (steps : List Step) :
    Except (List SettingFault) (List Outcome) :=
  (Settings.load env).map fun s => DatePrompt.runSession (s.openPrompt clock) steps

/-- The version under which all this is released. -/
def version : String := "1.0.0"

end DatePrompt
