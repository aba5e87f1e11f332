/-
# Wormhole.Lib.Transition — runs of a machine whose steps may fail.

A machine is a partial step function `step : σ → α → Option σ`: from a state and an input it either
moves or rejects the input, and a rejected input leaves the state alone.  `attempt` is the total step
that results, `attempts` its iteration over a list of inputs.  A `Run` is the reflexive-transitive
closure of the accepted steps, restricted to the steps that meet a side condition `ok`; taking `ok`
to be `fun _ _ => True` gives every run.

`Run.invariant` is the induction rule: what every admitted step preserves holds at the end of every
run.  `run_attempts` connects the two presentations.  `Along P` says that `P` holds of each step of a given
list of inputs, as far as the machine gets.  `logging` is the machine that also keeps a log of what its
accepted steps report.
-/
import Mathlib

namespace Wormhole.Lib.Transition

variable {σ α : Type*} {step : σ → α → Option σ} {ok : σ → α → Prop}

/-- One input offered to the machine; rejection leaves the state unchanged. -/
def attempt (step : σ → α → Option σ) (s : σ) (a : α) : σ := (step s a).getD s

/-- A list of inputs offered one after another. -/
def attempts (step : σ → α → Option σ) (s : σ) (as : List α) : σ := as.foldl (attempt step) s

@[simp]
theorem attempts_nil (s : σ) : attempts step s [] = s := rfl

@[simp]
theorem attempts_cons (s : σ) (a : α) (as : List α) :
    attempts step s (a :: as) = attempts step (attempt step s a) as := rfl

theorem attempts_concat (s : σ) (as : List α) (a : α) :
    attempts step s (as ++ [a]) = attempt step (attempts step s as) a := by
  simp [attempts]

theorem attempt_eq_of_none {s : σ} {a : α} (h : step s a = none) : attempt step s a = s := by
  simp [attempt, h]

theorem attempt_eq_of_some {s t : σ} {a : α} (h : step s a = some t) : attempt step s a = t := by
  simp [attempt, h]

/-- The accepted steps that meet the side condition. -/
def Accepts (step : σ → α → Option σ) (ok : σ → α → Prop) (s t : σ) : Prop :=
  ∃ a, ok s a ∧ step s a = some t

/-- Finite runs all of whose steps meet the side condition. -/
def Run (step : σ → α → Option σ) (ok : σ → α → Prop) : σ → σ → Prop :=
  Relation.ReflTransGen (Accepts step ok)

namespace Run

theorem refl (s : σ) : Run step ok s s := Relation.ReflTransGen.refl

theorem snoc {s t u : σ} {a : α} (h : Run step ok s t) (hok : ok t a) (hstep : step t a = some u) :
    Run step ok s u :=
  Relation.ReflTransGen.tail h ⟨a, hok, hstep⟩

theorem trans {s t u : σ} (h : Run step ok s t) (h' : Run step ok t u) : Run step ok s u :=
  Relation.ReflTransGen.trans h h'

/-- Offering an input that meets the side condition goes on with a run. -/
theorem attempt {s t : σ} (h : Run step ok s t) (a : α) (hok : ok t a) :
    Run step ok s (Transition.attempt step t a) := by
  cases hstep : step t a with
  | none => rwa [attempt_eq_of_none hstep]
  | some u =>
    rw [attempt_eq_of_some hstep]
    exact h.snoc hok hstep

/-- **The invariant rule.** What the start satisfies and every admitted step preserves holds
wherever a run ends. -/
theorem invariant {I : σ → Prop} (hstep : ∀ s a t, I s → ok s a → step s a = some t → I t)
    {s t : σ} (h : Run step ok s t) (hs : I s) : I t := by
  induction h with
  | refl => exact hs
  | tail _ hlast ih =>
    obtain ⟨a, hok, ha⟩ := hlast
    exact hstep _ a _ ih hok ha

/-- The invariant rule, where a step may rest on what is known of the states that a run reaches. -/
theorem invariant_of_reached {I : σ → Prop} {s₀ s : σ}
    (hstep : ∀ s a t, Run step ok s₀ s → I s → ok s a → step s a = some t → I t)
    (h : Run step ok s₀ s) (hs : I s₀) : I s := by
  have hboth : Run step ok s₀ s ∧ I s := by
    refine invariant (I := fun s => Run step ok s₀ s ∧ I s) ?_ h ⟨refl s₀, hs⟩
    rintro s a t ⟨hreached, hI⟩ ha hmove
    exact ⟨hreached.snoc ha hmove, hstep s a t hreached hI ha hmove⟩
  exact hboth.2

/-- A run under a side condition is a run under any weaker one. -/
theorem mono {ok' : σ → α → Prop} (hok : ∀ s a, ok s a → ok' s a) {s t : σ}
    (h : Run step ok s t) : Run step ok' s t := by
  induction h with
  | refl => exact refl _
  | tail _ hlast ih =>
    obtain ⟨a, ha, hs⟩ := hlast
    exact ih.snoc (hok _ a ha) hs

end Run

/-- Offering inputs that all meet a state-independent side condition is a run. -/
theorem run_attempts {P : α → Prop} (s : σ) (as : List α) (h : ∀ a ∈ as, P a) :
    Run step (fun _ a => P a) s (attempts step s as) := by
  induction as using List.reverseRecOn with
  | nil => exact Run.refl s
  | append_singleton as a ih =>
    have hpre := ih fun b hb => h b (List.mem_append_left _ hb)
    rw [attempts_concat]
    exact hpre.attempt a (h a (by simp))

/-! ## Properties along a run -/

/-- `P` holds of every step that the machine takes, or stops at, on the inputs. -/
def Along (step : σ → α → Option σ) (P : σ → α → Prop) : σ → List α → Prop
  | _, [] => True
  | s, a :: as => P s a ∧ ∀ t, step s a = some t → Along step P t as

/-- A property that can be checked can be checked along a run. -/
instance Along.decidable {P : σ → α → Prop} [∀ s a, Decidable (P s a)] :
    ∀ (s : σ) (as : List α), Decidable (Along step P s as)
  | _, [] => isTrue trivial
  | s, a :: as =>
    match h : step s a with
    | none => decidable_of_iff (P s a) ⟨fun hP => ⟨hP, fun t ht => by rw [h] at ht; cases ht⟩, And.left⟩
    | some t =>
      have : Decidable (Along step P t as) := Along.decidable t as
      decidable_of_iff (P s a ∧ Along step P t as)
        ⟨fun ⟨hP, hrest⟩ => ⟨hP, fun t' ht' => Option.some.inj (h.symm.trans ht') ▸ hrest⟩,
          fun ⟨hP, hrest⟩ => ⟨hP, hrest t h⟩⟩

section Along

variable {P Q : σ → α → Prop}

/-- What holds of every step holds along a run. -/
theorem Along.of_forall (h : ∀ s a, P s a) {s : σ} {as : List α} : Along step P s as := by
  induction as generalizing s with
  | nil => trivial
  | cons a as ih => exact ⟨h s a, fun _ _ => ih⟩

theorem Along.mono (h : ∀ s a, P s a → Q s a) {s : σ} {as : List α} (hP : Along step P s as) :
    Along step Q s as := by
  induction as generalizing s with
  | nil => trivial
  | cons a as ih => exact ⟨h s a hP.1, fun t hstep => ih (hP.2 t hstep)⟩

/-- Step by step equivalent properties are equivalent along a run. -/
theorem along_congr (h : ∀ s a, ok s a → (P s a ↔ Q s a)) {s : σ} {as : List α} (hok : Along step ok s as) :
    Along step P s as ↔ Along step Q s as := by
  induction as generalizing s with
  | nil => exact Iff.rfl
  | cons a as ih =>
    apply and_congr (h s a hok.1)
    apply forall_congr'
    intro t
    apply forall_congr'
    intro hstep
    exact ih (hok.2 t hstep)

/-- Properties that are equivalent while they hold, on a run that meets a side condition: the invariant needs
to be kept only by the steps with the first property. -/
theorem along_iff_of_ok {I : σ → Prop} {s u : σ} {as : List α} (hs : I s) (hok : Along step ok s as)
    (h : ∀ s a t, I s → ok s a → step s a = some t → (P s a ↔ Q s a) ∧ (P s a → I t))
    (hrun : as.foldlM step s = some u) : Along step P s as ↔ Along step Q s as := by
  induction as generalizing s with
  | nil => exact Iff.rfl
  | cons a as ih =>
    rw [List.foldlM_cons] at hrun
    obtain ⟨t, hstep, hrest⟩ := Option.bind_eq_some_iff.mp hrun
    obtain ⟨hiff, hkeep⟩ := h s a t hs hok.1 hstep
    constructor
    · rintro ⟨hP, htail⟩
      refine ⟨hiff.mp hP, ?_⟩
      intro t' ht'
      obtain rfl : t = t' := Option.some.inj (hstep.symm.trans ht')
      exact (ih (hkeep hP) (hok.2 t hstep) hrest).mp (htail t hstep)
    · rintro ⟨hQ, htail⟩
      have hP := hiff.mpr hQ
      refine ⟨hP, ?_⟩
      intro t' ht'
      obtain rfl : t = t' := Option.some.inj (hstep.symm.trans ht')
      exact (ih (hkeep hP) (hok.2 t hstep) hrest).mpr (htail t hstep)

/-- Properties that are equivalent while they hold: the invariant needs to be kept only by the steps with the
first property. -/
theorem along_iff {I : σ → Prop} {s u : σ} {as : List α} (hs : I s)
    (h : ∀ s a t, I s → step s a = some t → (P s a ↔ Q s a) ∧ (P s a → I t)) (hrun : as.foldlM step s = some u) :
    Along step P s as ↔ Along step Q s as := by
  have hok : Along step (fun _ _ => True) s as := Along.of_forall fun _ _ => trivial
  exact along_iff_of_ok hs hok (fun s a t hs _ => h s a t hs) hrun

/-- Along a run whose steps keep an invariant the invariant holds before each step. -/
theorem Along.invariant {I : σ → Prop} (hstep : ∀ s a t, I s → ok s a → step s a = some t → I t)
    {s : σ} {as : List α} (h : Along step ok s as) (hs : I s) :
    Along step (fun s a => ok s a ∧ I s) s as := by
  induction as generalizing s with
  | nil => trivial
  | cons a as ih =>
    refine ⟨⟨h.1, hs⟩, ?_⟩
    intro t ht
    exact ih (h.2 t ht) (hstep s a t hs h.1 ht)

/-- What holds along a run holds along its beginning. -/
theorem Along.left {s : σ} {as bs : List α} (h : Along step P s (as ++ bs)) : Along step P s as := by
  induction as generalizing s with
  | nil => trivial
  | cons a as ih => exact ⟨h.1, fun t hstep => ih (h.2 t hstep)⟩

/-- What holds along a run holds along the rest of it. -/
theorem Along.of_append {s t : σ} {as bs : List α} (h : Along step P s (as ++ bs))
    (hrun : as.foldlM step s = some t) : Along step P t bs := by
  induction as generalizing s with
  | nil =>
    rw [← Option.some.inj hrun]
    exact h
  | cons a as ih =>
    rw [List.foldlM_cons] at hrun
    obtain ⟨u, hstep, hrest⟩ := Option.bind_eq_some_iff.mp hrun
    exact ih (h.2 u hstep) hrest

/-- A run whose inputs meet a side condition and a condition on inputs. -/
theorem Along.run {p : α → Prop} {s t : σ} {as bs : List α} (h : Along step ok s (as ++ bs))
    (hp : ∀ a ∈ as, p a) (hrun : as.foldlM step s = some t) :
    Run step (fun s a => ok s a ∧ p a) s t := by
  suffices hgo : ∀ {u}, Run step (fun s a => ok s a ∧ p a) u s → Run step (fun s a => ok s a ∧ p a) u t from
    hgo (Run.refl s)
  intro u hu
  induction as generalizing s with
  | nil =>
    rw [← Option.some.inj hrun]
    exact hu
  | cons a as ih =>
    rw [List.foldlM_cons] at hrun
    obtain ⟨v, hstep, hrest⟩ := Option.bind_eq_some_iff.mp hrun
    obtain ⟨ha, has⟩ := List.forall_mem_cons.mp hp
    exact ih (h.2 v hstep) has hrest (hu.snoc ⟨h.1, ha⟩ hstep)

end Along

/-! ## Logs -/

section Logging

variable {ε : Type*} {report : σ → α → List ε}

/-- The machine next to the log of what its accepted steps report. -/
def logging (step : σ → α → Option σ) (report : σ → α → List ε) :
    σ × List ε → α → Option (σ × List ε) :=
  fun s a => (step s.1 a).map fun t => (t, s.2 ++ report s.1 a)

theorem logging_eq_some {s t : σ × List ε} {a : α} :
    logging step report s a = some t ↔ step s.1 a = some t.1 ∧ t.2 = s.2 ++ report s.1 a := by
  simp only [logging, Option.map_eq_some_iff, Prod.ext_iff]
  constructor
  · rintro ⟨u, hstep, rfl, hlog⟩
    exact ⟨hstep, hlog.symm⟩
  · rintro ⟨hstep, hlog⟩
    exact ⟨t.1, hstep, rfl, hlog.symm⟩

/-- Forgetting a part of every entry of the log makes a run of the machine that reports the rest. -/
theorem Run.map_log {ζ : Type*} (f : ε → ζ) (ok : σ → α → Prop) {s t : σ × List ε}
    (h : Run (logging step report) (fun s a => ok s.1 a) s t) :
    Run (logging step fun s a => (report s a).map f) (fun s a => ok s.1 a) (s.1, s.2.map f) (t.1, t.2.map f) := by
  induction h with
  | refl => exact Run.refl _
  | tail _ hlast ih =>
    obtain ⟨a, hok, hs⟩ := hlast
    obtain ⟨hstep, hlog⟩ := logging_eq_some.mp hs
    exact ih.snoc hok (logging_eq_some.mpr ⟨hstep, by rw [hlog, List.map_append]⟩)

end Logging

end Wormhole.Lib.Transition
