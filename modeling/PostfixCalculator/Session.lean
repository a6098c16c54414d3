/-
# A session at the keypad

What is typed goes into the entry and onto the screen.  Computing appends the result to the
screen, after an equals sign, and from then on the screen shows a result: the next thing
typed, or a backspace, starts from nothing.

A session depends on its history only through five things: the settings in force, the entry,
the screen, the error of the last calculation and its trace.
-/
import PostfixCalculator.Calculation

namespace PostfixCalculator

/-! ## 1. State and actions -/

/-- What a session remembers. -/
structure Session where
  settings : Settings := {}
  /-- What was typed. -/
  entry : String := ""
  /-- What is shown: the entry, and the result once there is one. -/
  screen : String := ""
  /-- Why the last calculation failed. -/
  error : Option CalcError := none
  /-- How the last calculation went. -/
  trace : Trace := {}

/-- What can be done in a session. -/
inductive Action where
  | insert (c : Char)
  | compute
  | clear
  | backspace
  | set (change : Setting)
deriving DecidableEq

/-! ## 2. One action -/

/-- A text without its last character. -/
def dropLastChar (text : String) : String := String.ofList text.toList.dropLast

namespace Session

/-- A new session. -/
def start (settings : Settings) : Session := { settings }

/-- Is a result or a failure on the screen? -/
def showsResult (s : Session) : Bool := s.screen.toList.contains '='

/-- Forgets all but the settings. -/
def clear (s : Session) : Session := start s.settings

/-- Types one character.  One that exceeds the longest entry is ignored. -/
def insert (s : Session) (c : Char) : Session :=
  let s := if s.showsResult then s.clear else s
  if s.settings.maxLength ≤ s.entry.length then s
  else { s with entry := s.entry.push c, screen := s.screen.push c }

/-- Shows the outcome of a calculation. -/
def conclude (s : Session) : Except CalcError Result → Session
  | .ok result =>
    { s with error := none, screen := s.screen ++ result.display, trace := result.trace }
  | .error e => { s with error := some e, screen := s.screen ++ "=erreur", trace := {} }

/-- Computes the entry, unless a result is shown. -/
def compute (s : Session) : Session :=
  if s.showsResult then s else s.conclude (calculate s.settings s.entry)

/-- Takes the last character back, or everything when a result is shown. -/
def backspace (s : Session) : Session :=
  if s.showsResult then s.clear
  else { s with entry := dropLastChar s.entry, screen := dropLastChar s.screen }

/-- The session after one action.  A change of settings leaves the screen as it is. -/
def step (s : Session) : Action → Session
  | .insert c => s.insert c
  | .compute => s.compute
  | .clear => s.clear
  | .backspace => s.backspace
  | .set change => { s with settings := s.settings.set change }

/-- The session after a sequence of actions. -/
def run (s : Session) (actions : List Action) : Session := actions.foldl step s

/-- The text of the error, empty when there is none. -/
def errorText (s : Session) : String :=
  match s.error with
  | some e => e.message
  | none => ""

/-! ## 3. Sequences -/

@[simp] theorem run_nil (s : Session) : s.run [] = s := rfl

@[simp] theorem run_cons (s : Session) (a : Action) (actions : List Action) :
    s.run (a :: actions) = (s.step a).run actions := rfl

theorem run_append (s : Session) (first second : List Action) :
    s.run (first ++ second) = (s.run first).run second :=
  List.foldl_append

end Session

end PostfixCalculator
