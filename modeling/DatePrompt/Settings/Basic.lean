import DatePrompt.Prompt.Basic

/-!
# Settings

What a prompt is set up with. It records events from the level of its settings on.
-/

namespace DatePrompt

/-- The settings of the prompt. -/
structure Settings where
  template : String
  format : Format
  /-- Entries may be journal dates. -/
  journal : Bool
  /-- The lowest level that is recorded. -/
  level : LogLevel
  compiles : Format.ofTemplate template = .ok format

/-- Opens the prompt of the settings. -/
def Settings.openPrompt (s : Settings) (clock : Clock) : PromptM Prompt :=
  Prompt.openTemplate s.template clock s.journal (some s.level)

end DatePrompt
