import Mathlib.Init

/-!
# What runs over a state and may fail

How the parts of an action over a state change the state and end (`bind_run` and its companions), and what is known of
the parts when the whole succeeded (`bind_eq_ok`). A failure keeps the state that was reached before it, so what each
part keeps the whole keeps (`Keeps.bind`), and where the parts end tells where the whole does (`Leads.bind`). Two actions
whose parts do the same over a state and over what is left of it do the same as a whole (`Mirrors.bind`), and an action
whose parts end alike from related states does so as a whole (`Alike.bind`).
-/

namespace ElmAssay.Effect

variable {ε σ α β : Type}

/-- Two actions, one after the other. -/
theorem bind_run (act : ExceptT ε (StateM σ) α) (next : α → ExceptT ε (StateM σ) β) (s : σ) :
    (act >>= next) s =
      match act s with
      | (.ok a, s') => next a s'
      | (.error e, s') => (.error e, s') := by
  simp only [bind, ExceptT.bind, ExceptT.mk, StateT.bind]
  rcases act s with ⟨r, s'⟩
  cases r <;> rfl

theorem bind_of_ok {act : ExceptT ε (StateM σ) α} {next : α → ExceptT ε (StateM σ) β} {s s' : σ} {a : α}
    (h : act s = (.ok a, s')) : (act >>= next) s = next a s' := by rw [bind_run, h]

theorem bind_of_error {act : ExceptT ε (StateM σ) α} {next : α → ExceptT ε (StateM σ) β} {s s' : σ} {e : ε}
    (h : act s = (.error e, s')) : (act >>= next) s = (.error e, s') := by rw [bind_run, h]

/-- If two actions succeed one after the other, each of them does. -/
theorem bind_eq_ok {act : ExceptT ε (StateM σ) α} {next : α → ExceptT ε (StateM σ) β} {s s' : σ} {b : β}
    (h : (act >>= next) s = (.ok b, s')) : ∃ a t, act s = (.ok a, t) ∧ next a t = (.ok b, s') := by
  rw [bind_run] at h
  rcases hs : act s with ⟨r, t⟩
  rw [hs] at h
  cases r with
  | error e => cases h
  | ok a => exact ⟨a, t, rfl, h⟩

theorem pure_run (a : α) (s : σ) : (pure a : ExceptT ε (StateM σ) α) s = (.ok a, s) := rfl

theorem get_run (s : σ) : (get : ExceptT ε (StateM σ) σ) s = (.ok s, s) := rfl

theorem modify_run (f : σ → σ) (s : σ) : (modify f : ExceptT ε (StateM σ) PUnit) s = (.ok ⟨⟩, f s) := rfl

/-- What may fail without a look at the state. -/
theorem lift_run (result : Except ε α) (s : σ) : (liftM result : ExceptT ε (StateM σ) α) s = (result, s) := by
  cases result <;> rfl

/-- What is put into another form can be taken back from it. -/
theorem map_injective {g : α → β} (hg : Function.Injective g) :
    Function.Injective (Except.map g : Except ε α → Except ε β) := by
  intro a b h
  cases a with
  | error e =>
    cases b with
    | error e' => cases h; rfl
    | ok b => cases h
  | ok a =>
    cases b with
    | error e => cases h
    | ok b => exact congrArg Except.ok (hg (Except.ok.inj h))

/-- An action after which the result is put into another form. -/
theorem map_run (act : ExceptT ε (StateM σ) α) (g : α → β) (s : σ) :
    (do let a ← act; return g a : ExceptT ε (StateM σ) β) s = ((act s).1.map g, (act s).2) := by
  rw [bind_run]
  rcases act s with ⟨result, s'⟩
  cases result <;> rfl

/-- An action whose failure is handled. -/
theorem tryCatch_run (act : ExceptT ε (StateM σ) α) (handle : ε → ExceptT ε (StateM σ) α) (s : σ) :
    tryCatch act handle s =
      match act s with
      | (.ok a, s') => (.ok a, s')
      | (.error e, s') => handle e s' := by
  show ExceptT.tryCatch act handle s = _
  simp only [ExceptT.tryCatch, ExceptT.mk, bind, StateT.bind]
  rcases act s with ⟨result, s'⟩
  cases result <;> rfl

/-! ## What is kept -/

/-- An action keeps what holds of the state, also if it fails. -/
def Keeps (J : σ → Prop) (act : ExceptT ε (StateM σ) α) : Prop := ∀ s, J s → J (act s).2

variable {J : σ → Prop}

theorem keeps_pure (a : α) : Keeps J (pure a : ExceptT ε (StateM σ) α) := fun _ h => h

theorem keeps_throw (e : ε) : Keeps J (throw e : ExceptT ε (StateM σ) α) := fun _ h => h

/-- What comes after something that may fail keeps what it keeps with the result. -/
theorem keeps_lift_bind {result : Except ε α} {next : α → ExceptT ε (StateM σ) β}
    (h : ∀ a, result = .ok a → Keeps J (next a)) : Keeps J (liftM result >>= next) := by
  intro s hs
  rw [bind_run, lift_run]
  cases result with
  | ok a => exact h a rfl s hs
  | error e => exact hs

/-- Two actions, one after the other, keep what each of them keeps. -/
theorem Keeps.bind {act : ExceptT ε (StateM σ) α} {next : α → ExceptT ε (StateM σ) β} (h : Keeps J act)
    (hnext : ∀ a, Keeps J (next a)) : Keeps J (act >>= next) := by
  intro s hs
  have hact := h s hs
  rw [bind_run]
  rcases hrun : act s with ⟨result, s'⟩
  rw [hrun] at hact
  cases result with
  | ok a => exact hnext a s' hact
  | error e => exact hact

/-! ## What an action gives -/

/-- An action gives only what has a property, if it gives anything. -/
def Yields (P : α → Prop) (act : ExceptT ε (StateM σ) α) : Prop := ∀ s a s', act s = (.ok a, s') → P a

section Yields

variable {P : α → Prop} {Q : β → Prop}

theorem yields_pure {a : α} (h : P a) : Yields P (pure a : ExceptT ε (StateM σ) α) := by
  rintro s b s' hrun
  cases hrun
  exact h

theorem yields_throw (e : ε) : Yields P (throw e : ExceptT ε (StateM σ) α) := by
  rintro s b s' hrun
  cases hrun

theorem yields_true (act : ExceptT ε (StateM σ) α) : Yields (fun _ => True) act := fun _ _ _ _ => trivial

/-- Two actions, one after the other, give what the second gives for what the first gives. -/
theorem Yields.bind {act : ExceptT ε (StateM σ) α} {next : α → ExceptT ε (StateM σ) β} (h : Yields P act)
    (hnext : ∀ a, P a → Yields Q (next a)) : Yields Q (act >>= next) := by
  intro s b s' hrun
  obtain ⟨a, t, hact, hrest⟩ := bind_eq_ok hrun
  exact hnext a (h s a t hact) t b s' hrest

/-- Whatever the first of two actions gives. -/
theorem yields_after {act : ExceptT ε (StateM σ) α} {next : α → ExceptT ε (StateM σ) β}
    (hnext : ∀ a, Yields Q (next a)) : Yields Q (act >>= next) := (yields_true act).bind fun a _ => hnext a

end Yields

/-! ## How an action ends -/

/-- How an action ends from a state: if it succeeds, where one thing holds, and if it fails, where another one does. -/
def Leads (act : ExceptT ε (StateM σ) α) (s : σ) (Q X : σ → Prop) : Prop :=
  match act s with
  | (.ok _, s') => Q s'
  | (.error _, s') => X s'

section Leads

variable {Q X Q' : σ → Prop} {act : ExceptT ε (StateM σ) α} {s s' : σ}

theorem leads_of_error {e : ε} (h : act s = (.error e, s')) (hX : X s') : Leads act s Q X := by
  rw [Leads, h]
  exact hX

/-- Two actions, one after the other, end as the second does from where the first one succeeds. -/
theorem Leads.bind {next : α → ExceptT ε (StateM σ) β} (h : Leads act s Q X)
    (hnext : ∀ a s', Q s' → Leads (next a) s' Q' X) : Leads (act >>= next) s Q' X := by
  rcases hrun : act s with ⟨result, s'⟩
  rw [Leads, hrun] at h
  cases result with
  | error e => exact leads_of_error (bind_of_error hrun) h
  | ok a =>
    have hrest := hnext a s' h
    rw [Leads] at hrest ⊢
    rw [bind_of_ok hrun]
    exact hrest

end Leads

/-! ## The same action over a richer state -/

/-- An action over a state does what another one does over what is left of that state. -/
def Mirrors {τ : Type} (g : τ → σ) (act' : ExceptT ε (StateM τ) α) (act : ExceptT ε (StateM σ) α) : Prop :=
  ∀ s, act (g s) = ((act' s).1, g (act' s).2)

variable {τ : Type} {g : τ → σ}

theorem mirrors_pure (a : α) : Mirrors g (pure a : ExceptT ε (StateM τ) α) (pure a) := fun _ => rfl

theorem mirrors_throw (e : ε) : Mirrors g (throw e : ExceptT ε (StateM τ) α) (throw e) := fun _ => rfl

theorem Mirrors.bind {act' : ExceptT ε (StateM τ) α} {next' : α → ExceptT ε (StateM τ) β}
    {act : ExceptT ε (StateM σ) α} {next : α → ExceptT ε (StateM σ) β} (h : Mirrors g act' act)
    (hnext : ∀ a, Mirrors g (next' a) (next a)) : Mirrors g (act' >>= next') (act >>= next) := by
  intro s
  rw [bind_run, bind_run, h s]
  rcases act' s with ⟨result, s'⟩
  cases result with
  | ok a => exact hnext a s'
  | error e => rfl

/-! ## The same action from two states -/

/-- Started in related states, an action ends alike: with the same result, or with related failures. -/
def Alike (R : σ → σ → Prop) (act : ExceptT ε (StateM σ) α) (Q : α → σ → σ → Prop) (X : ε → ε → σ → σ → Prop) : Prop :=
  ∀ s₁ s₂, R s₁ s₂ →
    (∃ a t₁ t₂, act s₁ = (.ok a, t₁) ∧ act s₂ = (.ok a, t₂) ∧ Q a t₁ t₂) ∨
      ∃ x₁ x₂ t₁ t₂, act s₁ = (.error x₁, t₁) ∧ act s₂ = (.error x₂, t₂) ∧ X x₁ x₂ t₁ t₂

variable {R : σ → σ → Prop} {Q : α → σ → σ → Prop} {X : ε → ε → σ → σ → Prop}

/-- Two actions, one after the other, end alike if the second does from where the first ends. -/
theorem Alike.bind {act : ExceptT ε (StateM σ) α} {next : α → ExceptT ε (StateM σ) β} {Q' : β → σ → σ → Prop}
    (h : Alike R act Q X) (hnext : ∀ a, Alike (Q a) (next a) Q' X) : Alike R (act >>= next) Q' X := by
  intro s₁ s₂ hs
  rcases h s₁ s₂ hs with ⟨a, t₁, t₂, h₁, h₂, hQ⟩ | ⟨x₁, x₂, t₁, t₂, h₁, h₂, hX⟩
  · rw [bind_of_ok h₁, bind_of_ok h₂]
    exact hnext a t₁ t₂ hQ
  · exact .inr ⟨x₁, x₂, t₁, t₂, bind_of_error h₁, bind_of_error h₂, hX⟩

end ElmAssay.Effect
