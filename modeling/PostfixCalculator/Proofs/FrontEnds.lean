/-
# The window answers as the command line does

A text can be typed in the window and entered, or it can be given on the command line.  Both
end in the calculation of that text, and differ in what they do around it.

In the window a text may come in pieces.  What the keyboard does not take is left out, what
exceeds the longest entry is ignored, and before all that there may be an earlier result or
failure on the screen.  None of these gets into the calculation.  A session in which nothing
is being typed is, for the next character, a new one (`Session.base_of_idle`).  From there the
characters that fit are typed, and entering them concludes with the calculation of just these
(`Session.frames_of_entered`).

What is shown then is what the command line writes, cut up in another way (`Session.Shows`).
-/
import PostfixCalculator.CommandLine
import PostfixCalculator.Proofs.Session.Editor
import PostfixCalculator.Proofs.Session.Frames

namespace PostfixCalculator

open CommandLine (Request)

/-! ## 1. Entering a text -/

/-- Nothing is being typed. -/
def Session.Idle (s : Session) : Prop := s.entry = "" ∨ s.showsResult = true

theorem Editor.base_of_idle {editor : Editor} (h : editor.session.Idle) :
    editor.session.base = Session.start editor.settings := by
  rw [Session.base, session_base]
  obtain ⟨settings, mode⟩ := editor
  cases mode with
  | editing t =>
    have hplain := mt (showsResult_session ⟨settings, .editing t⟩).mp (fun hne => hne rfl)
    have hempty : t.text = "" := h.resolve_right hplain
    simp only [Mode.base, session, hempty, Session.start]
  | shown t inForce => rfl
  | equals t => rfl

/-- No equals sign is typed on the keyboard. -/
theorem Frame.not_mem_flatMap_typed (fs : List Frame) : '=' ∉ fs.flatMap typed := by
  intro h
  obtain ⟨f, -, hf⟩ := List.mem_flatMap.mp h
  exact absurd (List.mem_filter.mp hf).2 (by decide)

namespace Session

/-- **When nothing is being typed, nothing of the past gets into what is typed next.** -/
theorem base_of_idle {settings : Settings} {fs : List Frame}
    (h : ((start settings).frames fs).Idle) :
    ((start settings).frames fs).base = start ((start settings).frames fs).settings := by
  obtain ⟨actions, hactions⟩ := exists_run_eq_frames fs (start settings)
  have hsession : (start settings).frames fs = ((Editor.start settings).run actions).session := by
    rw [hactions, ← Editor.session_start, Editor.run_session]
  rw [hsession] at h ⊢
  rw [Editor.base_of_idle h, Editor.session_settings]

/-- A new session takes of a text what fits. -/
theorem run_insert_start (settings : Settings) {cs : List Char} (hcs : '=' ∉ cs) :
    (start settings).run (cs.map .insert) = { start settings with
      entry := String.ofList (cs.take settings.maxLength)
      screen := String.ofList (cs.take settings.maxLength) } := by
  rw [run_insert hcs (by rfl)]
  simp [start]

theorem compute_of_plain {s : Session} (h : '=' ∉ s.screen.toList) :
    s.compute = s.conclude (calculate s.settings s.entry) :=
  if_neg (by simpa [showsResult] using h)

/-- **What is typed in pieces and entered is calculated as one text.** -/
theorem frames_of_entered {s : Session} (hbase : s.base = start s.settings)
    {texts : List Frame} {last : Frame} (htexts : ∀ f ∈ texts, f.OnlyText) (hlast : last.Entered)
    {cs : List Char} (hcs : (texts ++ [last]).flatMap Frame.typed = cs) (hne : cs ≠ [])
    {text : String} (htext : String.ofList (cs.take s.settings.maxLength) = text) :
    s.frames (texts ++ [last]) =
      conclude { start s.settings with entry := text, screen := text }
        (calculate s.settings text) := by
  have htyped : s.frames (texts ++ [last]) = (s.run (cs.map .insert)).compute := by
    rw [← hcs, frames_append, frames_of_onlyText htexts, frames_cons, frames_nil,
      frame_of_entered _ hlast, ← run_append, ← List.map_append, List.flatMap_append,
      List.flatMap_singleton]
  have hplain : '=' ∉ cs := hcs ▸ Frame.not_mem_flatMap_typed (texts ++ [last])
  have hscreen : '=' ∉ text.toList := by
    rw [← htext, String.toList_ofList]
    exact fun h => hplain (List.mem_of_mem_take h)
  rw [htyped, run_insert_base s hne, hbase, run_insert_start _ hplain, htext]
  exact compute_of_plain hscreen

/-! ## 2. What is shown and what is written -/

/-- What the command line makes of a text stands in the window: all its lines, or the message
of its error. -/
inductive Shows (s : Session) (text : String) : Except CalcError (List String) → Prop
  | lines {line : String} : s.screen = text ++ line → s.errorText = "" →
    Shows s text (.ok ["jetons   : " ++ s.trace.tokens,
      "postfixe : " ++ s.trace.postfixForm, line])
  | failure {e : CalcError} : s.screen = text ++ "=erreur" → s.errorText = e.message →
    s.trace = {} → Shows s text (.error e)

/-- The outcome of a calculation is shown behind its text as it is written in lines. -/
theorem shows_conclude {s : Session} {r : Request} {text : String} (hr : r.isPostfix = false)
    (hscreen : s.screen = text) :
    (s.conclude (calculate r.settings text)).Shows text (r.lines text) := by
  have hlines : r.lines text = (fun found : Result => ["jetons   : " ++ found.trace.tokens,
      "postfixe : " ++ found.trace.postfixForm, found.display]) <$>
        calculate r.settings text := by
    rw [Request.lines, hr]
    rfl
  rw [hlines, ← hscreen]
  cases calculate r.settings s.screen with
  | ok found => exact .lines rfl rfl
  | error e => exact .failure rfl rfl rfl

/-- **The window answers as the command line does.**  When nothing is being typed, whatever
there was before, and the settings are those of a request, text may be typed in any pieces and
in any frames, and entered in the last of them.  The entry is then what the keyboard took and
what fits, and the window shows what the request has the command line write for just that
text. -/
theorem window_answers_as_command_line (r : Request) (earlier texts : List Frame) (last : Frame)
    (hidle : ((start r.settings).frames earlier).Idle)
    (hsettings : ((start r.settings).frames earlier).settings = r.settings)
    (htexts : ∀ f ∈ texts, f.OnlyText) (hlast : last.Entered)
    (hne : (texts ++ [last]).flatMap Frame.typed ≠ []) :
    let text := String.ofList
      (((texts ++ [last]).flatMap Frame.typed).take r.settings.maxLength)
    let shown := ((start r.settings).frames earlier).frames (texts ++ [last])
    shown.entry = text ∧ shown.Shows text ({ r with isPostfix := false }.lines text) := by
  intro text shown
  have hshown : shown = conclude { start r.settings with entry := text, screen := text }
      (calculate r.settings text) := by
    have hentered := frames_of_entered (base_of_idle hidle) htexts hlast rfl hne rfl
    rwa [hsettings] at hentered
  rw [hshown]
  refine ⟨?_, shows_conclude (r := { r with isPostfix := false }) rfl rfl⟩
  cases calculate r.settings text <;> rfl

/-- A division by zero is on the screen.  The next text comes in three frames, with characters
that the keyboard does not take. -/
theorem window_answers_after_division_by_zero :
    let r : Request := { arithmetic := some .exact }
    let failed := (start r.settings).frames [{ texts := ["1/0"] }, { keys := [.enter] }]
    let shown := failed.frames
      [{ texts := ["2*", "x(3"] }, { texts := ["+4"] }, { texts := [")€"], keys := [.enter] }]
    failed.screen = "1/0=erreur" ∧ shown.entry = "2*(3+4)" ∧
      shown.Shows "2*(3+4)"
        (.ok ["jetons   : 2 * ( 3 + 4 )", "postfixe : 2 3 4 + *", "=14.00"]) := by
  intro r failed shown
  have hfailed : failed.screen = "1/0=erreur" := by
    subst failed r
    decide +kernel
  have hidle : failed.Idle := Or.inr (by rw [showsResult, hfailed]; decide)
  have hsettings : failed.settings = r.settings := by
    subst failed r
    decide +kernel
  have hlines : r.lines "2*(3+4)" = .ok
      ["jetons   : 2 * ( 3 + 4 )", "postfixe : 2 3 4 + *", "=14.00"] :=
    eq_ok_of_toOption (by subst r; decide +kernel)
  have hanswer := window_answers_as_command_line r [{ texts := ["1/0"] }, { keys := [.enter] }]
    [{ texts := ["2*", "x(3"] }, { texts := ["+4"] }] { texts := [")€"], keys := [.enter] }
    hidle hsettings
    (List.forall_mem_cons.mpr ⟨⟨rfl, rfl⟩, List.forall_mem_singleton.mpr ⟨rfl, rfl⟩⟩)
    ⟨rfl, rfl⟩ (by decide)
  rw [← hlines]
  exact ⟨hfailed, hanswer⟩

end Session

end PostfixCalculator
