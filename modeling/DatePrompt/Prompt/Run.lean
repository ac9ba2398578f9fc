import DatePrompt.Prompt.Basic

/-!
# Running a prompt

A session is a sequence of steps. Each step leaves an outcome: its answer or failure, the events
that it recorded, and how often it read the clock. A failed step does not end the session.
-/

namespace DatePrompt

/-- What can be asked of a prompt. -/
inductive Step
  | submit (text : String) (reference : Option Date) (correlation : Option String)
  | feedback (text : String) (reference : Option Date)
  | display (d : Date)
  | propose
  | weekday (weekday : Int) (reference : Option Date)
  | today
  | template
  deriving DecidableEq

inductive Answer
  | date (d : Date)
  | feedback (d : Option Date)
  | text (s : String)
  deriving DecidableEq

/-- What comes of a step. -/
structure Outcome where
  answer : Except Failure Answer
  events : List Event
  reads : Nat

/-- The outcome of an action in a session, and the session after it. -/
def observe (act : PromptM Answer) (s : Session) : Outcome × Session :=
  let (answer, s') := act.apply s
  (⟨answer, s'.log.drop s.log.length, s'.reads - s.reads⟩, s')

namespace Prompt

/-- The action of a step. -/
def act (p : Prompt) : Step → PromptM Answer
  | .submit text reference correlation => .date <$> p.submit text reference correlation
  | .feedback text reference => .feedback <$> p.feedback text reference
  | .display d => .text <$> p.display d
  | .propose => .text <$> p.propose
  | .weekday w reference => .date <$> p.weekday w reference
  | .today => .date <$> p.today
  | .template => return .text p.format.template

/-- The outcomes of a sequence of steps in a session. -/
def runFrom (p : Prompt) (s : Session) : List Step → List Outcome
  | [] => []
  | step :: steps =>
    let (outcome, s') := observe (p.act step) s
    outcome :: p.runFrom s' steps

/-- The outcomes of a sequence of steps from the beginning. -/
def run (p : Prompt) (steps : List Step) : List Outcome := p.runFrom .empty steps

end Prompt

/-- Opens a prompt and takes the steps: the outcome of opening it comes first, and alone if that
fails. -/
def runSession (opened : PromptM Prompt) (steps : List Step) : List Outcome :=
  match opened.apply .empty with
  | (.ok p, s) => ⟨.ok (.text p.format.template), s.log, s.reads⟩ :: p.runFrom s steps
  | (.error e, s) => [⟨.error e, s.log, s.reads⟩]

/-- What each of several entries means in a format, the clock being read for each. -/
def Format.resolveToday (f : Format) (clock : Clock) (texts : List String) :
    List (Except EntryError Date) :=
  texts.mapIdx fun n text => f.resolve text (clock n)

end DatePrompt
