/-
# Frames

A window shows the session and passes on what happens between two pictures: text that is
typed, keys that are pressed, buttons that are clicked.  A frame is a list of actions in an
order of its own: the escape key, the text, the enter and the backspace key, the keypad row by
row, then the choices of the settings.  A key or a button acts once a frame.

Text is filtered: only the characters of an expression are typed.

The choices stand in the window below the line of the error, which is there while there is an
error.  When the line comes or goes the choices move, and a click that was aimed at one of
them is lost.  So a choice acts only in a frame that leaves the line as it was.
-/
import PostfixCalculator.Session

namespace PostfixCalculator

/-! ## 1. Buttons -/

/-- Something to click on. -/
structure Button where
  label : String
  action : Action

namespace Button

/-- The button that types a character. -/
def typing (c : Char) : Button := ⟨c.toString, .insert c⟩

/-- The keypad, row by row. -/
def keypad : List Button :=
  "789/456*123-0.()".toList.map typing ++
    [⟨"C", .clear⟩, ⟨"DEL", .backspace⟩, typing '+', ⟨"=", .compute⟩]

/-- The choices of the settings. -/
def choices : List Button :=
  [⟨"permissif", .set (.lexicon .lenient)⟩, ⟨"strict", .set (.lexicon .strict)⟩,
   ⟨"tolérante", .set (.policy .tolerant)⟩, ⟨"stricte", .set (.policy .strict)⟩,
   ⟨"flottante", .set (.arithmetic .floating)⟩, ⟨"exacte", .set (.arithmetic .exact)⟩]

end Button

/-! ## 2. Frames -/

/-- The keys that act by themselves. -/
inductive Key where
  | enter
  | backspace
  | escape
deriving DecidableEq

/-- What happens between two pictures. -/
structure Frame where
  /-- The texts typed, in order. -/
  texts : List String := []
  /-- The keys pressed. -/
  keys : List Key := []
  /-- The labels of the buttons clicked. -/
  clicks : List String := []

namespace Frame

/-- The characters that the keyboard types. -/
def accepts (c : Char) : Bool := c.isDigit || "+-*/().".toList.contains c

/-- What the keyboard types. -/
def typed (frame : Frame) : List Char :=
  (frame.texts.flatMap String.toList).filter accepts

/-- The action of a key, if it is pressed. -/
def onKey (frame : Frame) (key : Key) (action : Action) : List Action :=
  if key ∈ frame.keys then [action] else []

/-- The actions of those among `buttons` that are clicked. -/
def onButtons (frame : Frame) (buttons : List Button) : List Action :=
  (buttons.filter (·.label ∈ frame.clicks)).map Button.action

/-- What the keyboard and the keypad do, in order. -/
def input (frame : Frame) : List Action :=
  frame.onKey .escape .clear ++ frame.typed.map .insert ++ frame.onKey .enter .compute ++
    frame.onKey .backspace .backspace ++ frame.onButtons Button.keypad

/-- The choices clicked on, in order. -/
def chosen (frame : Frame) : List Action := frame.onButtons Button.choices

end Frame

/-! ## 3. Sequences of frames -/

namespace Session

/-- Is there a line with an error in the window? -/
def showsError (s : Session) : Bool := s.error.isSome

/-- The session after one frame. -/
def frame (s : Session) (f : Frame) : Session :=
  let t := s.run f.input
  if t.showsError = s.showsError then t.run f.chosen else t

/-- The session after a sequence of frames. -/
def frames (s : Session) (fs : List Frame) : Session := fs.foldl frame s

/-- What a frame does is a sequence of actions. -/
theorem exists_run_eq_frame (s : Session) (f : Frame) : ∃ actions, s.frame f = s.run actions := by
  unfold frame
  dsimp only
  split
  · exact ⟨f.input ++ f.chosen, (run_append s _ _).symm⟩
  · exact ⟨f.input, rfl⟩

end Session

end PostfixCalculator
