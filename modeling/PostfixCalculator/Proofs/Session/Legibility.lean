/-
# The lexicon has no effect in the window

What can be typed in the window belongs to the alphabet of the tokens, so that an entry has
nothing in it that a lexicon could refuse; this, and that the bounds of the settings stay, is
kept by everything the window offers (`Session.Legible`).

So it makes no difference which lexicon is in force.  A session with its lexicon left out of
account does, under any frames, what it does under the frames without their clicks on the
lexicon (`Session.lenient_frames`).  Two sessions that differ by lexicons alone, at the start
or by clicks, are one session in this account, and nobody can tell them apart.
-/
import PostfixCalculator.Proofs.Failure
import PostfixCalculator.Proofs.Session.Frames

namespace PostfixCalculator

/-! ## 1. Legible entries -/

namespace Session

/-- The entry has characters of tokens only, and no more of them than the settings at the start
allow; these bounds are still in force; and the error, if any, is not about the text. -/
structure Legible (settings : Settings) (s : Session) : Prop where
  alphabet : ∀ c ∈ s.entry.toList, c ∈ Token.alphabet
  fits : s.entry.length ≤ settings.maxLength
  maxLength : s.settings.maxLength = settings.maxLength
  decimals : s.settings.decimals = settings.decimals
  error : ∀ e, s.error = some e → e.refusesText = false

namespace Legible

variable {settings : Settings} {s : Session}

theorem start (settings : Settings) : Legible settings (start settings) where
  alphabet := by simp [Session.start]
  fits := Nat.zero_le _
  maxLength := rfl
  decimals := rfl
  error := nofun

theorem clear (h : Legible settings s) : Legible settings s.clear where
  alphabet := by simp [Session.clear, Session.start]
  fits := Nat.zero_le _
  maxLength := h.maxLength
  decimals := h.decimals
  error := nofun

theorem base (h : Legible settings s) : Legible settings s.base := by
  rw [Session.base]
  split
  · exact h.clear
  · exact h

theorem insert (h : Legible settings s) {c : Char} (hc : c ∈ Token.alphabet) :
    Legible settings (s.insert c) := by
  rw [insert_eq]
  split
  · exact h.base
  · rename_i hroom
    refine { h.base with alphabet := ?_, fits := ?_ }
    · intro c' hc'
      simp only [String.toList_push, List.mem_append, List.mem_singleton] at hc'
      rcases hc' with hmem | rfl
      · exact h.base.alphabet c' hmem
      · exact hc
    · rw [String.length_push, ← h.maxLength]
      exact Nat.lt_of_not_le hroom

theorem compute (h : Legible settings s) : Legible settings s.compute := by
  rw [Session.compute]
  split
  · exact h
  · cases hr : calculate s.settings s.entry with
    | ok r => exact { h with error := nofun }
    | error e =>
      refine { h with error := ?_ }
      intro e' he'
      obtain rfl := Option.some.inj he'
      exact refusesText_of_calculate h.alphabet hr

theorem backspace (h : Legible settings s) : Legible settings s.backspace := by
  rw [Session.backspace]
  split
  · exact h.clear
  · refine { h with alphabet := ?_, fits := ?_ }
    · intro c hc
      rw [dropLastChar, String.toList_ofList] at hc
      exact h.alphabet c (List.dropLast_subset s.entry.toList hc)
    · refine Nat.le_trans ?_ h.fits
      simp only [dropLastChar, String.length_ofList, List.length_dropLast, String.length_toList]
      exact Nat.sub_le _ _

/-- **Whatever the window offers keeps the entry legible.** -/
theorem step (h : Legible settings s) {a : Action} (ha : a.offered = true) :
    Legible settings (s.step a) := by
  cases a with
  | insert c => exact h.insert (Token.mem_alphabet_iff.mpr ha)
  | compute => exact h.compute
  | clear => exact h.clear
  | backspace => exact h.backspace
  | set change =>
    cases change with
    | lexicon value => exact { h with }
    | policy value => exact { h with }
    | arithmetic value => exact { h with }
    | maxLength value => exact absurd ha nofun
    | decimals value => exact absurd ha nofun

theorem frames (h : Legible settings s) (fs : List Frame) : Legible settings (s.frames fs) :=
  frames_induction (fun _ _ ha h => h.step ha) fs h

/-- No message in the window is about the text. -/
theorem errorText_ne (h : Legible settings s) {e : CalcError} (he : e.refusesText = true) :
    s.errorText ≠ e.message := by
  intro htext
  rw [errorText] at htext
  split at htext
  · rename_i e' he'
    rw [← CalcError.refusesText_eq_of_message_eq htext, h.error e' he'] at he
    exact absurd he nofun
  · exact e.message_ne_empty htext.symm

end Legible

end Session

/-! ## 2. Clicks on the lexicon -/

/-- Does it choose a lexicon? -/
def Action.setsLexicon : Action → Bool
  | .set (.lexicon _) => true
  | _ => false

theorem Action.setsLexicon_set (change : Setting) :
    (Action.set change).setsLexicon = decide (change.field = .lexicon) := by
  cases change <;> rfl

namespace Frame

/-- The labels that choose a lexicon. -/
def lexiconLabels : List String := ["permissif", "strict"]

/-- The frame without the clicks on these. -/
def withoutLexicon (frame : Frame) : Frame :=
  { frame with clicks := frame.clicks.filter (· ∉ lexiconLabels) }

variable {frame : Frame} {buttons : List Button}

/-- Of buttons whose labels tell which of them choose a lexicon, just these are not clicked
any more. -/
theorem onButtons_withoutLexicon
    (h : ∀ button ∈ buttons, button.action.setsLexicon = decide (button.label ∈ lexiconLabels)) :
    frame.withoutLexicon.onButtons buttons =
      (frame.onButtons buttons).filter (!·.setsLexicon) := by
  rw [onButtons, onButtons, List.filter_map, List.filter_filter]
  refine congrArg (List.map Button.action) (List.filter_congr ?_)
  intro button hbutton
  simp [withoutLexicon, h button hbutton, and_comm]

theorem setsLexicon_keypad : ∀ button ∈ Button.keypad,
    button.action.setsLexicon = decide (button.label ∈ lexiconLabels) := by
  decide

theorem setsLexicon_choices : ∀ button ∈ Button.choices,
    button.action.setsLexicon = decide (button.label ∈ lexiconLabels) := by
  decide

theorem input_withoutLexicon (frame : Frame) :
    frame.withoutLexicon.input = frame.input.filter (!·.setsLexicon) := by
  have hkey : ∀ key pressed, pressed.setsLexicon = false →
      (frame.onKey key pressed).filter (!·.setsLexicon) = frame.onKey key pressed := by
    intro key pressed hpressed
    rw [List.filter_eq_self]
    intro a ha
    rw [eq_of_mem_onKey ha, hpressed]
    rfl
  have htyped : (frame.typed.map Action.insert).filter (!·.setsLexicon) =
      frame.typed.map .insert := by
    rw [List.filter_eq_self]
    intro a ha
    obtain ⟨c, -, rfl⟩ := List.mem_map.mp ha
    rfl
  rw [input, input, onButtons_withoutLexicon setsLexicon_keypad]
  simp only [List.filter_append]
  rw [hkey .escape .clear rfl, hkey .enter .compute rfl, hkey .backspace .backspace rfl, htyped]
  rfl

theorem chosen_withoutLexicon (frame : Frame) :
    frame.withoutLexicon.chosen = frame.chosen.filter (!·.setsLexicon) :=
  onButtons_withoutLexicon setsLexicon_choices

end Frame

/-! ## 3. The lexicon left out of account -/

namespace Session

/-- The session with the lenient lexicon in force. -/
def lenient (s : Session) : Session :=
  { s with settings := { s.settings with lexicon := .lenient } }

theorem lenient_base (s : Session) : s.base.lenient = s.lenient.base := apply_ite lenient _ _ _

theorem lenient_insert (s : Session) (c : Char) : (s.insert c).lenient = s.lenient.insert c := by
  rw [insert_eq, insert_eq, ← lenient_base]
  exact apply_ite lenient _ _ _

theorem lenient_conclude (s : Session) (outcome : Except CalcError Result) :
    (s.conclude outcome).lenient = s.lenient.conclude outcome := by
  cases outcome <;> rfl

/-- An entry in the alphabet of the tokens has the same outcome under every lexicon. -/
theorem lenient_compute {s : Session} (h : ∀ c ∈ s.entry.toList, c ∈ Token.alphabet) :
    s.compute.lenient = s.lenient.compute := by
  have hclean : ∀ c ∈ s.entry.toList, ¬ Token.Foreign c := fun c hc hforeign =>
    hforeign.1 (h c hc)
  have hcalc : calculate s.settings s.entry = calculate s.lenient.settings s.entry :=
    calculate_of_scan_eq (Token.scan_eq_scan hclean s.settings.lexicon .lenient)
  rw [compute, compute, apply_ite lenient, lenient_conclude, hcalc]
  rfl

theorem lenient_backspace (s : Session) : s.backspace.lenient = s.lenient.backspace :=
  apply_ite lenient _ _ _

/-- A choice of the lexicon is left out of account, too. -/
theorem lenient_step_of_setsLexicon {a : Action} (s : Session) (h : a.setsLexicon = true) :
    (s.step a).lenient = s.lenient := by
  cases a with
  | set change =>
    rw [Action.setsLexicon_set, decide_eq_true_eq] at h
    exact congrArg (fun settings => { s with settings })
      (Settings.set_set s.settings (.lexicon .lenient) h)
  | insert c => exact absurd h nofun
  | compute => exact absurd h nofun
  | clear => exact absurd h nofun
  | backspace => exact absurd h nofun

/-- **All other actions do the same whichever lexicon is in force.** -/
theorem lenient_step {settings : Settings} {s : Session} (hs : Legible settings s) {a : Action}
    (h : a.setsLexicon = false) : (s.step a).lenient = s.lenient.step a := by
  cases a with
  | insert c => exact lenient_insert s c
  | compute => exact lenient_compute hs.alphabet
  | clear => rfl
  | backspace => exact lenient_backspace s
  | set change =>
    rw [Action.setsLexicon_set, decide_eq_false_iff_not] at h
    exact congrArg (fun settings => { s with settings })
      (Settings.set_comm s.settings (.lexicon .lenient) h)

/-- The actions without the choices of a lexicon do the rest. -/
theorem lenient_run {settings : Settings} {actions : List Action}
    (hoffered : ∀ a ∈ actions, a.offered = true) :
    ∀ {s : Session}, Legible settings s →
      (s.run actions).lenient = s.lenient.run (actions.filter (!·.setsLexicon)) := by
  induction actions with
  | nil => exact fun _ => rfl
  | cons a actions ih =>
    intro s hs
    obtain ⟨ha, hrest⟩ := List.forall_mem_cons.mp hoffered
    rw [run_cons, ih hrest (hs.step ha), List.filter_cons]
    cases hlex : a.setsLexicon with
    | true => rw [lenient_step_of_setsLexicon s hlex]; rfl
    | false => rw [lenient_step hs hlex]; rfl

theorem lenient_frame {settings : Settings} {s : Session} (hs : Legible settings s) (f : Frame) :
    (s.frame f).lenient = s.lenient.frame f.withoutLexicon := by
  have hinput : (s.run f.input).lenient = s.lenient.run f.withoutLexicon.input := by
    rw [Frame.input_withoutLexicon]
    exact lenient_run (fun _ => Frame.offered_of_mem_input) hs
  have hlegible : Legible settings (s.run f.input) :=
    run_induction (fun _ _ ha h => h.step ha) (fun _ => Frame.offered_of_mem_input) hs
  rw [frame, frame, ← hinput, Frame.chosen_withoutLexicon, apply_ite lenient,
    lenient_run (fun _ => Frame.offered_of_mem_chosen) hlegible]
  rfl

/-- **With the lexicon left out of account, frames do what they do without their clicks on
it.** -/
theorem lenient_frames {settings : Settings} (fs : List Frame) :
    ∀ {s : Session}, Legible settings s →
      (s.frames fs).lenient = s.lenient.frames (fs.map Frame.withoutLexicon) := by
  induction fs with
  | nil => exact fun _ => rfl
  | cons f fs ih =>
    intro s hs
    have hframe : Legible settings (s.frame f) := hs.frames [f]
    rw [frames_cons, ih hframe, lenient_frame hs]
    rfl

/-- The two sessions show the same. -/
structure SeenAlike (s t : Session) : Prop where
  entry : s.entry = t.entry
  screen : s.screen = t.screen
  errorText : s.errorText = t.errorText
  trace : s.trace = t.trace

theorem SeenAlike.of_lenient {s t : Session} (h : s.lenient = t.lenient) : SeenAlike s t where
  entry := congrArg (·.entry) h
  screen := congrArg (·.screen) h
  errorText := congrArg (·.errorText) h
  trace := congrArg (·.trace) h

/-! ## 4. All sessions in the window -/

/-- **In the window the lexicon has no effect.**  After any frames the entry is legible within
the bounds that were set at the start, and no message refuses a piece of the text.  And a
session that starts with another lexicon, under frames with other clicks on the lexicons, shows
the same after each frame. -/
theorem window_ignores_lexicon (settings : Settings) (fs : List Frame) :
    Legible settings ((start settings).frames fs) ∧
      (∀ e : CalcError, e.refusesText = true →
        ((start settings).frames fs).errorText ≠ e.message) ∧
      ∀ (lexicon : Lexicon) (gs : List Frame),
        gs.map Frame.withoutLexicon = fs.map Frame.withoutLexicon →
        ∀ n, SeenAlike ((start settings).frames (fs.take n))
          ((start { settings with lexicon }).frames (gs.take n)) := by
  have hlegible := (Legible.start settings).frames fs
  refine ⟨hlegible, fun e => hlegible.errorText_ne, ?_⟩
  intro lexicon gs hgs n
  refine .of_lenient ?_
  rw [lenient_frames _ (Legible.start settings),
    lenient_frames _ (Legible.start { settings with lexicon }), List.map_take, List.map_take, hgs]
  rfl

/-- The letter is not typed, and it shows nowhere that one session ends up strict and the other
one lenient. -/
theorem window_ignores_lexicon_of_clicks :
    let fs : List Frame := [{ texts := ["2x*3"], clicks := ["strict"] }, { keys := [.enter] }]
    let gs : List Frame := [{ texts := ["2x*3"] }, { keys := [.enter], clicks := ["permissif"] }]
    ((start {}).frames fs).entry = "2*3" ∧
      ((start {}).frames fs).errorText ≠ (CalcError.unexpectedCharacter 'x' 1).message ∧
      SeenAlike ((start {}).frames fs) ((start { lexicon := .strict }).frames gs) := by
  intro fs gs
  obtain ⟨-, hmessage, halike⟩ := window_ignores_lexicon {} fs
  exact ⟨by subst fs; decide +kernel, hmessage _ rfl, halike .strict gs rfl 2⟩

end Session

end PostfixCalculator
