/-
# Outcomes

The stages of a calculation are chained, and the first failure ends the chain.  These are the
laws of such chains: what a chain does after a success and after a failure, how a chain can
have succeeded or failed, and where a chain of equal steps failed.
-/

namespace PostfixCalculator

variable {ε α β γ σ : Type}

/-! ## 1. Chains -/

@[simp] theorem ok_bind (a : α) (f : α → Except ε β) : (Except.ok a >>= f) = f a := rfl

@[simp] theorem error_bind (e : ε) (f : α → Except ε β) :
    ((Except.error e : Except ε α) >>= f) = .error e := rfl

@[simp] theorem map_ok (f : α → β) (a : α) : f <$> (Except.ok a : Except ε α) = .ok (f a) := rfl

@[simp] theorem map_error (f : α → β) (e : ε) :
    f <$> (Except.error e : Except ε α) = .error e := rfl

/-- A chain succeeds when both its parts do. -/
theorem bind_eq_ok_iff {x : Except ε α} {f : α → Except ε β} {b : β} :
    (x >>= f) = .ok b ↔ ∃ a, x = .ok a ∧ f a = .ok b := by
  cases x with
  | error e => simp
  | ok a => simp

/-- A chain fails in its first part, or after it. -/
theorem bind_eq_error_iff {x : Except ε α} {f : α → Except ε β} {e : ε} :
    (x >>= f) = .error e ↔ x = .error e ∨ ∃ a, x = .ok a ∧ f a = .error e := by
  cases x with
  | error e' => simp
  | ok a => simp

theorem map_eq_ok_iff {x : Except ε α} {f : α → β} {b : β} :
    f <$> x = .ok b ↔ ∃ a, x = .ok a ∧ f a = b := by
  cases x with
  | error e => simp
  | ok a => simp

theorem map_eq_error_iff {x : Except ε α} {f : α → β} {e : ε} :
    f <$> x = .error e ↔ x = .error e := by
  cases x with
  | error e' => simp
  | ok a => simp

/-- A success is known by its result. -/
theorem eq_ok_of_toOption {x : Except ε α} {a : α} (h : x.toOption = some a) : x = .ok a := by
  cases x with
  | error e => exact absurd h nofun
  | ok b => exact congrArg Except.ok (Option.some.inj h)

/-! ## 2. Repetition -/

/-- **Induction on a run that succeeds**, from its end: a fact that holds of no steps, and of
a step and the run behind it if it holds of that run. -/
@[elab_as_elim]
theorem foldlM_ok_induction {step : σ → α → Except ε σ} {last : σ}
    {motive : ∀ xs s, xs.foldlM step s = .ok last → Prop} (nil : motive [] last rfl)
    (cons : ∀ {x xs s t} (hstep : step s x = .ok t) (hrun : xs.foldlM step t = .ok last),
      motive xs t hrun → motive (x :: xs) s (bind_eq_ok_iff.mpr ⟨t, hstep, hrun⟩))
    {xs : List α} {s : σ} (h : xs.foldlM step s = .ok last) : motive xs s h := by
  induction xs generalizing s with
  | nil =>
    obtain rfl := Except.ok.inj h
    exact nil
  | cons x xs ih =>
    obtain ⟨t, hstep, hrun⟩ := bind_eq_ok_iff.mp h
    exact cons hstep hrun (ih hrun)

/-- **A run that fails has a step that fails.** -/
theorem exists_of_foldlM_eq_error {step : σ → α → Except ε σ} {e : ε} {xs : List α} :
    ∀ {s : σ}, xs.foldlM step s = .error e → ∃ x ∈ xs, ∃ t, step t x = .error e := by
  induction xs with
  | nil => exact fun h => absurd h (by simp [pure, Except.pure])
  | cons x xs ih =>
    intro s h
    rcases bind_eq_error_iff.mp h with hstep | ⟨t, -, hrest⟩
    · exact ⟨x, List.mem_cons_self, s, hstep⟩
    · obtain ⟨y, hy, hfail⟩ := ih hrest
      exact ⟨y, List.mem_cons_of_mem x hy, hfail⟩

/-- What all results have in common with what they were computed from is found in the list of
results. -/
theorem map_eq_of_mapM {f : α → Except ε β} {g : β → γ} {h : α → γ}
    (hf : ∀ x y, f x = .ok y → g y = h x) {xs : List α} :
    ∀ {ys : List β}, xs.mapM f = .ok ys → ys.map g = xs.map h := by
  induction xs with
  | nil =>
    rintro ys hrun
    obtain rfl := Except.ok.inj hrun
    rfl
  | cons x xs ih =>
    rintro ys hrun
    rw [List.mapM_cons] at hrun
    obtain ⟨y, hy, hrest⟩ := bind_eq_ok_iff.mp hrun
    obtain ⟨tail, htail, hpure⟩ := bind_eq_ok_iff.mp hrest
    obtain rfl := Except.ok.inj hpure
    rw [List.map_cons, List.map_cons, hf x y hy, ih htail]

/-- **The first failure is the failure of all.**  If the bad members of a list are those that
fail, the whole fails as the first bad one does. -/
theorem mapM_eq_error_iff {f : α → Except ε β} {bad : α → Bool} {cause : α → ε} {e : ε}
    {xs : List α} (hbad : ∀ x ∈ xs, bad x = true → f x = .error (cause x))
    (hgood : ∀ x ∈ xs, bad x = false → ∃ y, f x = .ok y) :
    xs.mapM f = .error e ↔ ∃ x, xs.find? bad = some x ∧ e = cause x := by
  induction xs with
  | nil => simp [pure, Except.pure]
  | cons x xs ih =>
    have hrest := ih (fun y hy => hbad y (List.mem_cons_of_mem x hy))
      (fun y hy => hgood y (List.mem_cons_of_mem x hy))
    rw [List.mapM_cons, List.find?_cons]
    cases hx : bad x with
    | true =>
      rw [hbad x List.mem_cons_self hx, error_bind, Except.error.injEq]
      simp [eq_comm]
    | false =>
      obtain ⟨y, hy⟩ := hgood x List.mem_cons_self hx
      rw [hy, ok_bind, bind_eq_error_iff, hrest]
      simp [pure, Except.pure]

end PostfixCalculator
