/-
# A session is an editor

A session does not store what it is doing.  It reads it off its screen, where an equals sign
means a result.  The editor of this module stores it: a text is being typed, or the outcome of
a text is shown, or an equals sign was typed behind a text.  In each of these modes the text
itself has no equals sign, so that nothing typed can be taken for a result but the sign alone.

`Editor.session` lays an editor out as a session, field by field.  Each action does to the
layout what it does to the editor (`Editor.step_session`), so that a session is the layout of
an editor after any actions in any order (`Editor.run_session`).  An outcome that is shown is
that of the settings which were in force when it was computed, and not of those at hand.  In
force are the last values that were chosen, whatever else was done (`Session.get_settings_run`).
-/
import PostfixCalculator.Proofs.Calculation
import PostfixCalculator.Session

namespace PostfixCalculator

/-! ## 1. Texts without an equals sign -/

/-- A text without an equals sign. -/
structure PlainText where
  text : String
  plain : '=' ∉ text.toList

namespace PlainText

def empty : PlainText := ⟨"", by simp⟩

/-- The text with one more character. -/
def push (t : PlainText) (c : Char) (h : c ≠ '=') : PlainText where
  text := t.text.push c
  plain := by
    rw [String.toList_push, List.mem_append, List.mem_singleton]
    rintro (hmem | rfl)
    · exact t.plain hmem
    · exact h rfl

/-- The text without its last character. -/
def dropLast (t : PlainText) : PlainText where
  text := dropLastChar t.text
  plain := by
    rw [dropLastChar, String.toList_ofList]
    exact fun hmem => t.plain (List.dropLast_subset t.text.toList hmem)

end PlainText

/-! ## 2. The editor -/

/-- What an editor is doing. -/
inductive Editor.Mode where
  /-- The text is being typed. -/
  | editing (t : PlainText)
  /-- The outcome of the text is shown, under the settings it was computed with. -/
  | shown (t : PlainText) (inForce : Settings)
  /-- An equals sign was typed behind the text. -/
  | equals (t : PlainText)

/-- An editor and its settings. -/
structure Editor where
  settings : Settings
  mode : Editor.Mode

namespace Editor

/-- The three kinds of modes. -/
inductive Kind where
  | editing
  | shown
  | equals
deriving DecidableEq

def Mode.kind : Mode → Kind
  | editing _ => .editing
  | shown _ _ => .shown
  | equals _ => .equals

/-- A new editor. -/
def start (settings : Settings) : Editor := ⟨settings, .editing .empty⟩

/-- Types a character behind a text, if there is room for one. -/
def typeBehind (settings : Settings) (t : PlainText) (c : Char) : Mode :=
  if t.text.length < settings.maxLength then
    if h : c = '=' then .equals t else .editing (t.push c h)
  else .editing t

/-- The text that typing goes on from: when no text is being typed, the empty one. -/
def Mode.base : Mode → PlainText
  | editing t => t
  | _ => .empty

/-- The editor after one action. -/
def step (editor : Editor) : Action → Editor
  | .insert c => { editor with mode := typeBehind editor.settings editor.mode.base c }
  | .compute =>
    match editor.mode with
    | .editing t => { editor with mode := .shown t editor.settings }
    | _ => editor
  | .clear => { editor with mode := .editing .empty }
  | .backspace =>
    match editor.mode with
    | .editing t => { editor with mode := .editing t.dropLast }
    | _ => { editor with mode := .editing .empty }
  | .set change => { editor with settings := editor.settings.set change }

/-- The editor after a sequence of actions. -/
def run (editor : Editor) (actions : List Action) : Editor := actions.foldl step editor

/-- The session that an editor stands for. -/
def session (editor : Editor) : Session :=
  match editor.mode with
  | .editing t => { settings := editor.settings, entry := t.text, screen := t.text }
  | .shown t inForce =>
    match calculate inForce t.text with
    | .ok result =>
      { settings := editor.settings
        entry := t.text
        screen := t.text ++ result.display
        trace := result.trace }
    | .error e =>
      { settings := editor.settings
        entry := t.text
        screen := t.text ++ "=erreur"
        error := some e }
  | .equals t =>
    { settings := editor.settings, entry := t.text.push '=', screen := t.text.push '=' }

/-! ## 3. What a session shows -/

theorem session_settings (editor : Editor) : editor.session.settings = editor.settings := by
  unfold session
  split
  · rfl
  · split <;> rfl
  · rfl

/-- **Only a text that is being typed shows no result.** -/
theorem showsResult_session (editor : Editor) :
    editor.session.showsResult = true ↔ editor.mode.kind ≠ .editing := by
  obtain ⟨settings, mode⟩ := editor
  cases mode with
  | editing t => simpa [Session.showsResult, session, Mode.kind] using t.plain
  | shown t inForce =>
    cases hr : calculate inForce t.text with
    | ok r =>
      obtain ⟨rest, hrest⟩ := display_of_calculate hr
      simp [Session.showsResult, session, Mode.kind, hr, hrest]
    | error e => simp [Session.showsResult, session, Mode.kind, hr]
  | equals t => simp [Session.showsResult, session, Mode.kind]

/-- An equals sign is in the entry only when it was typed. -/
theorem mem_entry_session (editor : Editor) :
    '=' ∈ editor.session.entry.toList ↔ editor.mode.kind = .equals := by
  obtain ⟨settings, mode⟩ := editor
  cases mode with
  | editing t => simpa [session, Mode.kind] using t.plain
  | shown t inForce =>
    have hentry : (⟨settings, .shown t inForce⟩ : Editor).session.entry = t.text := by
      rw [session]
      dsimp only
      split <;> rfl
    rw [hentry]
    simpa [Mode.kind] using t.plain
  | equals t => simp [session, Mode.kind]

/-- **The modes exclude one another.**  A session is the layout of editors of one kind only. -/
theorem kind_eq_of_session_eq {editor other : Editor} (h : editor.session = other.session) :
    editor.mode.kind = other.mode.kind := by
  have hshows : editor.mode.kind ≠ .editing ↔ other.mode.kind ≠ .editing := by
    rw [← showsResult_session, ← showsResult_session, h]
  have hediting : editor.mode.kind = .editing ↔ other.mode.kind = .editing :=
    Decidable.not_iff_not.mp hshows
  have hequals : editor.mode.kind = .equals ↔ other.mode.kind = .equals := by
    rw [← mem_entry_session, ← mem_entry_session, h]
  cases hk : editor.mode.kind with
  | editing => exact (hediting.mp hk).symm
  | equals => exact (hequals.mp hk).symm
  | shown =>
    rw [hk] at hediting hequals
    cases hk' : other.mode.kind with
    | editing => exact absurd (hediting.mpr hk') (by decide)
    | equals => exact absurd (hequals.mpr hk') (by decide)
    | shown => rfl

/-! ## 4. Actions -/

/-- To forget all but the settings is to start typing an empty text. -/
theorem session_start (settings : Settings) :
    (start settings).session = Session.start settings := rfl

/-- What a session goes on from when something is typed. -/
theorem session_base (editor : Editor) :
    (if editor.session.showsResult then editor.session.clear else editor.session) =
      (⟨editor.settings, .editing editor.mode.base⟩ : Editor).session := by
  have hshows := showsResult_session editor
  split
  · rename_i h
    rw [Session.clear, session_settings]
    obtain ⟨settings, mode⟩ := editor
    cases mode with
    | editing t => exact absurd rfl (hshows.mp h)
    | shown t inForce => rfl
    | equals t => rfl
  · rename_i h
    obtain ⟨settings, mode⟩ := editor
    cases mode with
    | editing t => rfl
    | shown t inForce => exact absurd (hshows.mpr (by simp [Mode.kind])) h
    | equals t => exact absurd (hshows.mpr (by simp [Mode.kind])) h

theorem session_insert (editor : Editor) (c : Char) :
    editor.session.insert c = (editor.step (.insert c)).session := by
  rw [Session.insert, session_base, step, typeBehind]
  by_cases hroom : editor.mode.base.text.length < editor.settings.maxLength
  · rw [if_pos hroom]
    have hfull : ¬ editor.settings.maxLength ≤ editor.mode.base.text.length :=
      Nat.not_le_of_lt hroom
    by_cases hc : c = '='
    · subst hc
      simp [session, hfull]
    · simp [session, hfull, hc, PlainText.push]
  · rw [if_neg hroom]
    simp [session, Nat.le_of_not_lt hroom]

theorem session_compute (editor : Editor) :
    editor.session.compute = (editor.step .compute).session := by
  have hshows := showsResult_session editor
  rw [Session.compute]
  obtain ⟨settings, mode⟩ := editor
  cases mode with
  | editing t =>
    have hplain : (⟨settings, .editing t⟩ : Editor).session.showsResult = false := by
      rw [← Bool.not_eq_true, hshows]
      simp [Mode.kind]
    rw [if_neg (by rw [hplain]; exact Bool.false_ne_true)]
    change (⟨settings, .editing t⟩ : Editor).session.conclude (calculate settings t.text) = _
    simp only [step, session]
    cases calculate settings t.text <;> rfl
  | shown t inForce => exact if_pos (hshows.mpr (by simp [Mode.kind]))
  | equals t => exact if_pos (hshows.mpr (by simp [Mode.kind]))

theorem session_backspace (editor : Editor) :
    editor.session.backspace = (editor.step .backspace).session := by
  have hshows := showsResult_session editor
  rw [Session.backspace, Session.clear, session_settings]
  obtain ⟨settings, mode⟩ := editor
  cases mode with
  | editing t => exact if_neg (fun h => hshows.mp h rfl)
  | shown t inForce => exact if_pos (hshows.mpr (by simp [Mode.kind]))
  | equals t => exact if_pos (hshows.mpr (by simp [Mode.kind]))

theorem session_set (editor : Editor) (change : Setting) :
    { editor.session with settings := editor.session.settings.set change } =
      (editor.step (.set change)).session := by
  obtain ⟨settings, mode⟩ := editor
  cases mode with
  | editing t => rfl
  | shown t inForce =>
    simp only [step, session]
    cases calculate inForce t.text <;> rfl
  | equals t => rfl

/-- **One action does to the layout what it does to the editor.** -/
theorem step_session (editor : Editor) (action : Action) :
    editor.session.step action = (editor.step action).session := by
  cases action with
  | insert c => exact session_insert editor c
  | compute => exact session_compute editor
  | clear => rw [Session.step, Session.clear, session_settings]; rfl
  | backspace => exact session_backspace editor
  | set change => exact session_set editor change

/-- A sequence of actions, too. -/
theorem run_session (actions : List Action) :
    ∀ editor : Editor, editor.session.run actions = (editor.run actions).session := by
  induction actions with
  | nil => exact fun editor => rfl
  | cons action actions ih =>
    intro editor
    rw [Session.run_cons, step_session, ih]
    rfl

end Editor

/-! ## 5. Sessions -/

/-- **A session is an editor.**  After any actions in any order a session is the layout of the
editor after the same actions; it shows a result exactly when no text is being typed; and it
is no layout of an editor of another kind. -/
theorem Session.run_eq_session (settings : Settings) (actions : List Action) :
    (start settings).run actions = ((Editor.start settings).run actions).session ∧
      (((start settings).run actions).showsResult = true ↔
        ((Editor.start settings).run actions).mode.kind ≠ .editing) ∧
      ∀ other : Editor, (start settings).run actions = other.session →
        other.mode.kind = ((Editor.start settings).run actions).mode.kind := by
  have hrun : (start settings).run actions = ((Editor.start settings).run actions).session := by
    rw [← Editor.session_start]
    exact Editor.run_session actions _
  refine ⟨hrun, ?_, ?_⟩
  · rw [hrun]
    exact Editor.showsResult_session _
  · intro other hother
    rw [hrun] at hother
    exact (Editor.kind_eq_of_session_eq hother).symm

/-! ## 6. Settings in force -/

/-- The changes of settings that an action asks for. -/
def Action.changes : Action → List Setting
  | set change => [change]
  | _ => []

theorem Editor.settings_step (editor : Editor) (action : Action) :
    (editor.step action).settings = action.changes.foldl Settings.set editor.settings := by
  cases action with
  | insert c => rfl
  | compute => rw [step]; split <;> rfl
  | clear => rfl
  | backspace => rw [step]; split <;> rfl
  | set change => rfl

theorem Editor.settings_run (actions : List Action) : ∀ editor : Editor,
    (editor.run actions).settings =
      (actions.flatMap Action.changes).foldl Settings.set editor.settings := by
  induction actions with
  | nil => exact fun _ => rfl
  | cons action actions ih =>
    intro editor
    rw [List.flatMap_cons, List.foldl_append, ← settings_step]
    exact ih (editor.step action)

/-- **The settings in force are those chosen last.**  A setting that was never chosen is as it
was at the start. -/
theorem Session.get_settings_run (settings : Settings) (actions : List Action)
    (field : Setting.Field) :
    ((start settings).run actions).settings.get field =
      (((actions.flatMap Action.changes).filter (·.field = field)).getLast?).getD
        (settings.get field) := by
  rw [← Editor.session_start, Editor.run_session, Editor.session_settings, Editor.settings_run,
    Settings.get_foldl_set]
  rfl

end PostfixCalculator
