import Mathlib.Logic.Basic
import Vitae.Failure

/-!
# Results of computations that may fail

What the result of a computation that goes on after another one says of the two. A computation with
a state comes to a result if it has this result from every state in which an invariant holds, and
keeps to the invariant; failures may differ in their wording, which is not what decides the exit
code.
-/

namespace Vitae

/-! ### One after the other -/

section

variable {ε α β : Type}

theorem bind_eq_ok_iff {x : Except ε α} {f : α → Except ε β} {b : β} :
    (x >>= f) = .ok b ↔ ∃ a, x = .ok a ∧ f a = .ok b := by
  cases x with
  | error e => simp [bind, Except.bind]
  | ok a => simp [bind, Except.bind]

/-- After a check, which passes or fails. -/
theorem check_bind_eq_ok_iff {x : Except ε Unit} {y : Except ε β} {b : β} :
    (x >>= fun _ => y) = .ok b ↔ x = .ok () ∧ y = .ok b := by
  cases x with
  | error e => simp [bind, Except.bind]
  | ok u => simp [bind, Except.bind]

theorem bind_congr_of_ok {x : Except ε α} {f g : α → Except ε β} (h : ∀ a, x = .ok a → f a = g a) :
    x >>= f = x >>= g := by
  cases x with
  | error e => rfl
  | ok a => exact h a rfl

/-- Results that are fine alike are the same, or neither is fine. -/
theorem eq_or_errors_of_ok_iff {x y : Except ε α} (h : ∀ a, x = .ok a ↔ y = .ok a) :
    x = y ∨ ∃ e e', x = .error e ∧ y = .error e' := by
  cases x with
  | ok a => exact Or.inl ((h a).1 rfl).symm
  | error e =>
    cases y with
    | ok a => cases (h a).2 rfl
    | error e' => exact Or.inr ⟨e, e', rfl, rfl⟩

theorem bind_eq_error_iff {x : Except ε α} {f : α → Except ε β} {e : ε} :
    (x >>= f) = .error e ↔ x = .error e ∨ ∃ a, x = .ok a ∧ f a = .error e := by
  cases x with
  | error e => simp [bind, Except.bind]
  | ok a => simp [bind, Except.bind]

theorem map_eq_ok_iff {x : Except ε α} {f : α → β} {b : β} :
    x.map f = .ok b ↔ ∃ a, x = .ok a ∧ f a = b := by
  cases x with
  | error e => simp [Except.map]
  | ok a => simp [Except.map]

theorem map_eq_error_iff {x : Except ε α} {f : α → β} {e : ε} :
    x.map f = .error e ↔ x = .error e := by
  cases x with
  | error e => simp [Except.map]
  | ok a => simp [Except.map]

theorem foldlM_cons_eq_ok_iff {f : β → α → Except ε β} {a : α} {as : List α} {start stop : β} :
    (a :: as).foldlM f start = .ok stop ↔
      ∃ next, f start a = .ok next ∧ as.foldlM f next = .ok stop := by
  rw [List.foldlM_cons]
  exact bind_eq_ok_iff

end

/-! ### Exit codes -/

theorem Failure.exitCode_ne_zero (e : Failure) : e.exitCode ≠ 0 := by
  cases e <;> simp [Failure.exitCode]

/-- A failure with this exit code. -/
def FailsWith {α : Type} (r : Except Failure α) (code : Nat) : Prop :=
  ∃ e, r = .error e ∧ e.exitCode = code

section

variable {α β : Type} {code : Nat}

theorem failsWith_ok_iff {a : α} : FailsWith (.ok a) code ↔ False := by
  simp [FailsWith]

theorem failsWith_error_iff {e : Failure} :
    FailsWith (.error e : Except Failure α) code ↔ e.exitCode = code := by
  simp [FailsWith]

theorem failsWith_iff_mapError {r : Except Failure α} :
    FailsWith r code ↔ r.mapError Failure.exitCode = .error code := by
  cases r with
  | error e => exact failsWith_error_iff.trans ⟨congrArg Except.error, Except.error.inj⟩
  | ok a => exact failsWith_ok_iff.trans ⟨False.elim, nofun⟩

theorem FailsWith.unique {r : Except Failure α} {code' : Nat} (h : FailsWith r code)
    (h' : FailsWith r code') : code = code' := by
  obtain ⟨e, rfl, rfl⟩ := h
  exact failsWith_error_iff.1 h'

theorem failsWith_bind_iff {r : Except Failure α} {f : α → Except Failure β} :
    FailsWith (r >>= f) code ↔ FailsWith r code ∨ ∃ a, r = .ok a ∧ FailsWith (f a) code := by
  cases r with
  | error e => simp [FailsWith, bind, Except.bind]
  | ok a => simp [FailsWith, bind, Except.bind]

theorem FailsWith.bind {r : Except Failure α} (h : FailsWith r code) (f : α → Except Failure β) :
    FailsWith (r >>= f) code := failsWith_bind_iff.2 (Or.inl h)

theorem FailsWith.bind_ok {r : Except Failure α} {a : α} {f : α → Except Failure β}
    (h : FailsWith (f a) code) (hr : r = .ok a) : FailsWith (r >>= f) code :=
  failsWith_bind_iff.2 (Or.inr ⟨a, hr, h⟩)

/-- Every failure, if there is one, has this exit code. -/
def FailsOnlyWith {α : Type} (r : Except Failure α) (code : Nat) : Prop :=
  ∀ e, r = .error e → e.exitCode = code

namespace FailsOnlyWith

variable {r : Except Failure α}

theorem ok (a : α) : FailsOnlyWith (.ok a) code := nofun

theorem error {e : Failure} (h : e.exitCode = code) :
    FailsOnlyWith (.error e : Except Failure α) code := by
  rintro _ ⟨⟩
  exact h

theorem bind (h : FailsOnlyWith r code) {f : α → Except Failure β}
    (hf : ∀ a, r = .ok a → FailsOnlyWith (f a) code) : FailsOnlyWith (r >>= f) code := by
  intro e he
  rcases bind_eq_error_iff.1 he with hr | ⟨a, hr, hfail⟩
  · exact h e hr
  · exact hf a hr e hfail

theorem map (h : FailsOnlyWith r code) (f : α → β) : FailsOnlyWith (r.map f) code :=
  fun e he => h e (map_eq_error_iff.1 he)

/-- Only that there is no result is left to say. -/
theorem failsWith_iff {only : Nat} (h : FailsOnlyWith r only) :
    FailsWith r code ↔ code = only ∧ ∀ a, r ≠ .ok a := by
  cases r with
  | error e =>
    rw [failsWith_error_iff, h e rfl]
    simp [eq_comm]
  | ok a => simp [FailsWith]

end FailsOnlyWith

end

/-! ### With a state -/

section

variable {σ α β : Type} {inv : σ → Prop}

/-- A computation that keeps to an invariant of the state and has this result, but perhaps for the
wording of its failure. -/
def Comes (inv : σ → Prop) (x : ExceptT Failure (StateM σ) α) (r : Except Failure α) : Prop :=
  ∀ s, inv s →
    (x.run.run s).1.mapError Failure.exitCode = r.mapError Failure.exitCode ∧ inv (x.run.run s).2

theorem run_bind (x : ExceptT Failure (StateM σ) α) (f : α → ExceptT Failure (StateM σ) β) (s : σ) :
    (x >>= f).run.run s = match x.run.run s with
      | (.ok a, s') => (f a).run.run s'
      | (.error e, s') => (.error e, s') := by
  rw [ExceptT.run_bind, StateT.run_bind]
  simp only [bind]
  rcases StateT.run x.run s with ⟨_ | _, _⟩ <;> rfl

namespace Comes

variable {x : ExceptT Failure (StateM σ) α} {r r' : Except Failure α}

theorem pure (a : α) : Comes inv (Pure.pure a) (.ok a) := fun _ hs => ⟨rfl, hs⟩

theorem ofExcept (r : Except Failure α) : Comes inv (liftM r) r := fun _ hs => ⟨rfl, hs⟩

theorem modify {f : σ → σ} (hf : ∀ s, inv s → inv (f s)) :
    Comes inv (modify f : ExceptT Failure (StateM σ) PUnit) (.ok ()) :=
  fun s hs => ⟨rfl, hf s hs⟩

theorem get {f : σ → ExceptT Failure (StateM σ) α} (h : ∀ s, inv s → Comes inv (f s) r) :
    Comes inv (get >>= f) r := fun s hs => h s hs s hs

theorem congr (h : Comes inv x r)
    (hr : r.mapError Failure.exitCode = r'.mapError Failure.exitCode) : Comes inv x r' :=
  fun s hs => ⟨(h s hs).1.trans hr, (h s hs).2⟩

theorem run_ok {a : α} (h : Comes inv x (.ok a)) {s : σ} (hs : inv s) :
    ∃ s', inv s' ∧ x.run.run s = (.ok a, s') := by
  obtain ⟨hresult, hinv⟩ := h s hs
  rcases hrun : x.run.run s with ⟨_ | b, s'⟩
  · rw [hrun] at hresult
    cases hresult
  · rw [hrun] at hresult hinv
    cases hresult
    exact ⟨s', hinv, rfl⟩

theorem run_error {e : Failure} (h : Comes inv x (.error e)) {s : σ} (hs : inv s) :
    ∃ e' s', e'.exitCode = e.exitCode ∧ inv s' ∧ x.run.run s = (.error e', s') := by
  obtain ⟨hresult, hinv⟩ := h s hs
  rcases hrun : x.run.run s with ⟨e' | b, s'⟩
  · rw [hrun] at hresult hinv
    exact ⟨e', s', Except.error.inj hresult, hinv, rfl⟩
  · rw [hrun] at hresult
    cases hresult

theorem bind (h : Comes inv x r) {f : α → ExceptT Failure (StateM σ) β} {g : α → Except Failure β}
    (hf : ∀ a, r = .ok a → Comes inv (f a) (g a)) : Comes inv (x >>= f) (r >>= g) := by
  intro s hs
  cases r with
  | ok a =>
    obtain ⟨s', hs', hrun⟩ := h.run_ok hs
    rw [run_bind, hrun]
    exact hf a rfl s' hs'
  | error e =>
    obtain ⟨e', s', hcode, hs', hrun⟩ := h.run_error hs
    rw [run_bind, hrun]
    exact ⟨congrArg Except.error hcode, hs'⟩

theorem after {y : ExceptT Failure (StateM σ) PUnit} (hy : Comes inv y (.ok ()))
    (h : Comes inv x r) : Comes inv (y >>= fun _ => x) r := by
  have hbind : Comes inv (y >>= fun _ => x) ((.ok () : Except Failure PUnit) >>= fun _ => r) :=
    hy.bind fun _ _ => h
  exact hbind

/-- What is done with a result on the way does not change it. -/
theorem tap (h : Comes inv x r) {f : α → ExceptT Failure (StateM σ) PUnit}
    (hf : ∀ a, Comes inv (f a) (.ok ())) :
    Comes inv (x >>= fun a => f a >>= fun _ => Pure.pure a) r := by
  have hbind : Comes inv (x >>= fun a => f a >>= fun _ => Pure.pure a) (r >>= Pure.pure) :=
    h.bind fun a _ => (hf a).after (.pure a)
  rwa [bind_pure] at hbind

end Comes

end

end Vitae
