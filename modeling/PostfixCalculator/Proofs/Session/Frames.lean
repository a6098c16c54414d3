/-
# What frames can do

The window has a key or a button for some actions only (`Action.offered`): it types the
characters of the alphabet, and of the settings it changes the three choices and neither
bound.  So what an offered action keeps, every sequence of frames keeps
(`Session.frames_induction`).

Frames with text alone type the characters that the keyboard takes, however the text is cut
into pieces and the pieces are spread over frames (`Session.frames_of_onlyText`).  A text
without equals sign comes behind what is there until the entry is full, and a shown result
makes way for it (`Session.run_insert`).
-/
import PostfixCalculator.Proofs.Token.Scanning
import PostfixCalculator.Session.Frame

namespace PostfixCalculator

/-! ## 1. Offered actions -/

/-- Is there a key or a button for it? -/
def Action.offered : Action → Bool
  | .insert c => Token.inAlphabet c
  | .set (.maxLength _) | .set (.decimals _) => false
  | _ => true

theorem Button.keypad_offered : ∀ button ∈ keypad, button.action.offered = true :=
  List.all_eq_true.mp rfl

theorem Button.choices_offered : ∀ button ∈ choices, button.action.offered = true :=
  List.all_eq_true.mp rfl

namespace Frame

variable {frame : Frame} {action : Action}

theorem eq_of_mem_onKey {key : Key} {pressed : Action} (h : action ∈ frame.onKey key pressed) :
    action = pressed := by
  rw [onKey] at h
  split at h
  · exact List.mem_singleton.mp h
  · exact absurd h List.not_mem_nil

theorem exists_button {buttons : List Button} (h : action ∈ frame.onButtons buttons) :
    ∃ button ∈ buttons, button.action = action := by
  obtain ⟨button, hbutton, haction⟩ := List.mem_map.mp h
  exact ⟨button, (List.mem_filter.mp hbutton).1, haction⟩

/-- **The keyboard types the alphabet of the tokens.** -/
theorem accepts_iff {c : Char} : accepts c = true ↔ c ∈ Token.alphabet := by
  constructor
  · intro h
    have hsymbols : "+-*/().".toList.all Token.inAlphabet = true := rfl
    rw [Token.mem_alphabet_iff]
    rcases (Bool.or_eq_true _ _).mp h with hdigit | hsymbol
    · simp [Token.inAlphabet, Token.inNumber, hdigit]
    · exact List.all_eq_true.mp hsymbols c (List.contains_iff_mem.mp hsymbol)
  · have hall : Token.alphabet.all accepts = true := rfl
    exact List.all_eq_true.mp hall c

theorem mem_alphabet_of_mem_typed {c : Char} (h : c ∈ frame.typed) : c ∈ Token.alphabet :=
  accepts_iff.mp (List.mem_filter.mp h).2

/-- The keyboard and the keypad do nothing but what is offered. -/
theorem offered_of_mem_input (h : action ∈ frame.input) : action.offered = true := by
  simp only [input, List.mem_append] at h
  rcases h with (((h | h) | h) | h) | h
  · rw [eq_of_mem_onKey h]
    rfl
  · obtain ⟨c, hc, rfl⟩ := List.mem_map.mp h
    exact Token.mem_alphabet_iff.mp (mem_alphabet_of_mem_typed hc)
  · rw [eq_of_mem_onKey h]
    rfl
  · rw [eq_of_mem_onKey h]
    rfl
  · obtain ⟨button, hbutton, rfl⟩ := exists_button h
    exact Button.keypad_offered button hbutton

theorem offered_of_mem_chosen (h : action ∈ frame.chosen) : action.offered = true := by
  obtain ⟨button, hbutton, rfl⟩ := exists_button h
  exact Button.choices_offered button hbutton

end Frame

/-! ## 2. Sequences of frames -/

namespace Session

variable {P : Session → Prop}

@[simp] theorem frames_nil (s : Session) : s.frames [] = s := rfl

@[simp] theorem frames_cons (s : Session) (f : Frame) (fs : List Frame) :
    s.frames (f :: fs) = (s.frame f).frames fs := rfl

theorem frames_append (s : Session) (first second : List Frame) :
    s.frames (first ++ second) = (s.frames first).frames second :=
  List.foldl_append

/-- What frames do is a sequence of actions. -/
theorem exists_run_eq_frames (fs : List Frame) :
    ∀ s : Session, ∃ actions, s.frames fs = s.run actions := by
  induction fs with
  | nil => exact fun s => ⟨[], rfl⟩
  | cons f fs ih =>
    intro s
    obtain ⟨first, hfirst⟩ := s.exists_run_eq_frame f
    obtain ⟨rest, hrest⟩ := ih (s.frame f)
    refine ⟨first ++ rest, ?_⟩
    rw [frames_cons, hrest, hfirst, run_append]

/-- What every offered action keeps, a sequence of offered actions keeps. -/
theorem run_induction (hstep : ∀ s a, a.offered = true → P s → P (s.step a))
    {actions : List Action} (hoffered : ∀ a ∈ actions, a.offered = true) :
    ∀ {s : Session}, P s → P (s.run actions) := by
  induction actions with
  | nil => exact fun hs => hs
  | cons a actions ih =>
    intro s hs
    obtain ⟨ha, hrest⟩ := List.forall_mem_cons.mp hoffered
    exact ih hrest (hstep s a ha hs)

/-- One frame: it does its input, and then its choices or none of them. -/
theorem frame_induction (hstep : ∀ s a, a.offered = true → P s → P (s.step a)) (f : Frame)
    {s : Session} (hs : P s) : P (s.frame f) := by
  have hinput : P (s.run f.input) :=
    run_induction hstep (fun _ => Frame.offered_of_mem_input) hs
  rw [frame]
  split
  · exact run_induction hstep (fun _ => Frame.offered_of_mem_chosen) hinput
  · exact hinput

/-- **What every offered action keeps, every sequence of frames keeps.** -/
theorem frames_induction (hstep : ∀ s a, a.offered = true → P s → P (s.step a))
    (fs : List Frame) : ∀ {s : Session}, P s → P (s.frames fs) := by
  induction fs with
  | nil => exact fun hs => hs
  | cons f fs ih => exact fun hs => ih (frame_induction hstep f hs)

end Session

/-! ## 3. Frames with text -/

/-- Nothing but text comes in the frame. -/
structure Frame.OnlyText (frame : Frame) : Prop where
  keys : frame.keys = []
  clicks : frame.clicks = []

/-- The enter key is pressed in the frame, behind a text or none. -/
structure Frame.Entered (frame : Frame) : Prop where
  keys : frame.keys = [.enter]
  clicks : frame.clicks = []

theorem Frame.onButtons_of_clicks {frame : Frame} (h : frame.clicks = []) (buttons : List Button) :
    frame.onButtons buttons = [] := by
  simp [onButtons, h]

namespace Session

theorem frame_of_onlyText (s : Session) {f : Frame} (h : f.OnlyText) :
    s.frame f = s.run (f.typed.map .insert) := by
  have hinput : f.input = f.typed.map .insert := by
    simp [Frame.input, Frame.onKey, h.keys, Frame.onButtons_of_clicks h.clicks]
  simp [frame, hinput, Frame.chosen, Frame.onButtons_of_clicks h.clicks]

theorem frame_of_entered (s : Session) {f : Frame} (h : f.Entered) :
    s.frame f = (s.run (f.typed.map .insert)).compute := by
  have hinput : f.input = f.typed.map .insert ++ [.compute] := by
    simp [Frame.input, Frame.onKey, h.keys, Frame.onButtons_of_clicks h.clicks]
  simp [frame, hinput, Frame.chosen, Frame.onButtons_of_clicks h.clicks, run_append, step]

/-- **Text may come in any pieces and in any frames.** -/
theorem frames_of_onlyText {fs : List Frame} (h : ∀ f ∈ fs, f.OnlyText) :
    ∀ s : Session, s.frames fs = s.run ((fs.flatMap Frame.typed).map .insert) := by
  induction fs with
  | nil => exact fun s => rfl
  | cons f fs ih =>
    intro s
    obtain ⟨hf, hrest⟩ := List.forall_mem_cons.mp h
    rw [frames_cons, ih hrest, frame_of_onlyText s hf, ← run_append, ← List.map_append,
      List.flatMap_cons]

/-! ## 4. Typing -/

/-- What typing goes on from. -/
def base (s : Session) : Session := if s.showsResult then s.clear else s

theorem base_of_showsResult {s : Session} (h : s.showsResult = true) : s.base = s.clear :=
  if_pos h

theorem base_of_not_showsResult {s : Session} (h : s.showsResult = false) : s.base = s :=
  if_neg (by rw [h]; exact Bool.false_ne_true)

theorem showsResult_clear (s : Session) : s.clear.showsResult = false := rfl

theorem showsResult_base (s : Session) : s.base.showsResult = false := by
  cases h : s.showsResult with
  | true => rw [base_of_showsResult h, showsResult_clear]
  | false => rw [base_of_not_showsResult h, h]

@[simp] theorem settings_base (s : Session) : s.base.settings = s.settings := by
  rw [base]
  split <;> rfl

theorem insert_eq (s : Session) (c : Char) :
    s.insert c = if s.settings.maxLength ≤ s.base.entry.length then s.base
      else { s.base with entry := s.base.entry.push c, screen := s.base.screen.push c } := by
  rw [← settings_base s]
  rfl

/-- A shown result makes way for what is typed. -/
theorem run_insert_base (s : Session) {cs : List Char} (h : cs ≠ []) :
    s.run (cs.map .insert) = s.base.run (cs.map .insert) := by
  cases cs with
  | nil => exact absurd rfl h
  | cons c cs =>
    have hinsert : s.insert c = s.base.insert c := by
      rw [insert_eq, insert_eq, settings_base, base_of_not_showsResult (showsResult_base s)]
    simp [step, hinsert]

theorem push_append_ofList (text : String) (c : Char) (cs : List Char) :
    text.push c ++ String.ofList cs = text ++ String.ofList (c :: cs) :=
  String.toList_inj.mp (by simp)

/-- **A text comes behind what is there until the entry is full.** -/
theorem run_insert {cs : List Char} (hcs : '=' ∉ cs) :
    ∀ {s : Session}, s.showsResult = false → s.run (cs.map .insert) = { s with
      entry := s.entry ++ String.ofList (cs.take (s.settings.maxLength - s.entry.length))
      screen := s.screen ++ String.ofList (cs.take (s.settings.maxLength - s.entry.length)) } := by
  induction cs with
  | nil =>
    intro s _
    simp
  | cons c cs ih =>
    intro s hs
    rw [List.mem_cons, not_or] at hcs
    rw [List.map_cons, run_cons, step, insert_eq, base_of_not_showsResult hs]
    by_cases hfull : s.settings.maxLength ≤ s.entry.length
    · rw [if_pos hfull, ih hcs.2 hs, Nat.sub_eq_zero_of_le hfull]
      simp
    · have hplain : showsResult { s with
          entry := s.entry.push c, screen := s.screen.push c } = false := by
        simpa [showsResult, hcs.1] using hs
      have hroom : s.settings.maxLength - s.entry.length =
          s.settings.maxLength - (s.entry.push c).length + 1 := by
        rw [String.length_push]
        omega
      rw [if_neg hfull, ih hcs.2 hplain, hroom, List.take_succ_cons]
      simp only [push_append_ofList]

end Session

end PostfixCalculator
