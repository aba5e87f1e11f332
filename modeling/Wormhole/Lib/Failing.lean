/-
# Wormhole.Lib.Failing — computations that return a value or an error.

What a computation in `Except ε` returns, part by part: a sequence returns when its first part returns
and the rest does.  `Returns Q` says that all a computation may return satisfies `Q`, and `Never e` that it does
not fail with `e`; both go through a sequence.
-/
import Mathlib

namespace Wormhole.Lib.Failing

universe u v

variable {ε : Type u} {α β γ : Type v}

theorem ok_bind (a : α) (f : α → Except ε β) : ((Except.ok a : Except ε α) >>= f) = f a := rfl

/-- **Peeling a sequence apart.** -/
theorem bind_eq_ok {x : Except ε α} {f : α → Except ε β} {b : β} :
    (x >>= f) = .ok b ↔ ∃ a, x = .ok a ∧ f a = .ok b := by
  cases x with
  | error err => simp [Bind.bind, Except.bind]
  | ok a => simp [Bind.bind, Except.bind]

/-- A sequence fails in its first part, or behind it. -/
theorem bind_eq_error {x : Except ε α} {f : α → Except ε β} {err : ε} :
    (x >>= f) = .error err ↔ x = .error err ∨ ∃ a, x = .ok a ∧ f a = .error err := by
  cases x with
  | error err' => simp [Bind.bind, Except.bind]
  | ok a => simp [Bind.bind, Except.bind]

theorem map_eq_ok {x : Except ε α} {f : α → β} {b : β} :
    x.map f = .ok b ↔ ∃ a, x = .ok a ∧ f a = b := by
  cases x <;> simp [Except.map]

/-- Keeping a part of what a sequence returns. -/
theorem map_bind_eq (x : Except ε α) (f : α → Except ε β) (g : β → γ) :
    (x >>= f).map g = x >>= fun a => (f a).map g := by
  cases x <;> rfl

theorem toOption_eq_some {x : Except ε α} {a : α} (h : x.toOption = some a) : x = .ok a := by
  cases x with
  | error err => cases h
  | ok b => exact congrArg _ (Option.some.inj h)

/-- What is kept of a computation that returned. -/
theorem map_toOption_eq_some {x : Except ε α} {f : α → β} {b : β}
    (h : (x.map f).toOption = some b) : ∃ a, x = .ok a ∧ f a = b :=
  map_eq_ok.mp (toOption_eq_some h)

/-- **Folds.** What every round keeps holds when the fold has returned. -/
theorem foldlM_invariant {σ α : Type v} {f : σ → α → Except ε σ} {l : List α} {s t : σ} (I : σ → Prop)
    (hstep : ∀ s a s', a ∈ l → I s → f s a = .ok s' → I s') (h : l.foldlM f s = .ok t) (hs : I s) : I t := by
  induction l generalizing s with
  | nil =>
    rw [← Except.ok.inj h]
    exact hs
  | cons a l ih =>
    rw [List.foldlM_cons] at h
    obtain ⟨u, hu, hrest⟩ := bind_eq_ok.mp h
    refine ih ?_ hrest (hstep s a u List.mem_cons_self hs hu)
    intro s b s' hb
    exact hstep s b s' (List.mem_cons_of_mem a hb)

/-- A fold fails in the first round that does. -/
theorem foldlM_eq_error {σ α : Type v} {f : σ → α → Except ε σ} {l : List α} {s : σ} {err : ε} :
    l.foldlM f s = .error err ↔
      ∃ pre a post t, l = pre ++ a :: post ∧ pre.foldlM f s = .ok t ∧ f t a = .error err := by
  induction l generalizing s with
  | nil =>
    constructor
    · intro h
      cases h
    · rintro ⟨pre, a, post, t, h, -⟩
      cases pre <;> cases h
  | cons b l ih =>
    rw [List.foldlM_cons, bind_eq_error]
    constructor
    · rintro (hb | ⟨u, hu, hrest⟩)
      · exact ⟨[], b, l, s, rfl, rfl, hb⟩
      · obtain ⟨pre, a, post, t, rfl, hpre, ha⟩ := ih.mp hrest
        refine ⟨b :: pre, a, post, t, rfl, ?_, ha⟩
        rw [List.foldlM_cons, hu, ok_bind]
        exact hpre
    · rintro ⟨pre, a, post, t, hl, hpre, ha⟩
      cases pre with
      | nil =>
        obtain ⟨rfl, rfl⟩ := List.cons.inj hl
        obtain rfl : s = t := Except.ok.inj hpre
        exact .inl ha
      | cons c pre =>
        obtain ⟨rfl, rfl⟩ := List.cons.inj hl
        rw [List.foldlM_cons] at hpre
        obtain ⟨u, hu, hpre⟩ := bind_eq_ok.mp hpre
        exact .inr ⟨u, hu, ih.mpr ⟨pre, a, post, t, rfl, hpre, ha⟩⟩

/-! ## What is returned -/

/-- Whatever the computation returns satisfies `Q`. -/
def Returns (Q : α → Prop) (x : Except ε α) : Prop := ∀ a, x = .ok a → Q a

namespace Returns

theorem ok {Q : α → Prop} {a : α} (h : Q a) : Returns Q (.ok a : Except ε α) := by
  intro b hb
  rwa [← Except.ok.inj hb]

/-- The rest of a sequence, for what its first part has returned. -/
theorem bind {Q : β → Prop} {x : Except ε α} {f : α → Except ε β}
    (h : ∀ a, x = .ok a → Returns Q (f a)) : Returns Q (x >>= f) := by
  intro b hb
  obtain ⟨a, ha, hfa⟩ := bind_eq_ok.mp hb
  exact h a ha b hfa

end Returns

/-! ## How it does not fail -/

/-- The computation does not fail with this error. -/
def Never (err : ε) (x : Except ε α) : Prop := x ≠ .error err

namespace Never

theorem ok {err : ε} {a : α} : Never err (.ok a : Except ε α) := fun h => by cases h

theorem error {err err' : ε} (h : err' ≠ err) : Never err (.error err' : Except ε α) :=
  fun heq => h (Except.error.inj heq)

/-- A sequence fails where one of its parts does. -/
theorem bind {err : ε} {x : Except ε α} {f : α → Except ε β} (hx : Never err x)
    (hf : ∀ a, x = .ok a → Never err (f a)) : Never err (x >>= f) := by
  cases x with
  | error err' => exact error fun heq => hx (congrArg _ heq)
  | ok a => exact hf a rfl

end Never

end Wormhole.Lib.Failing
