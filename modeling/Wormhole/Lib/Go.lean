/-
# Wormhole.Lib.Go — calls that return, report an error or panic.

A Go function that returns `(value, error)` and may panic on the way is a term of `Go α`.  Errors and
panics both end a sequence of calls; a caller that goes on after an error matches on the outcome.
-/
import Mathlib

namespace Wormhole.Lib

/-- The outcome of a call. -/
inductive Go (α : Type) where
  | ok (a : α)
  | error (reason : String)
  | panic (reason : String)
  deriving DecidableEq

namespace Go

variable {α β : Type}

/-- Go on with the value, if there is one. -/
def bind : Go α → (α → Go β) → Go β
  | .ok a, f => f a
  | .error reason, _ => .error reason
  | .panic reason, _ => .panic reason

instance : Monad Go where
  pure := .ok
  bind := bind

/-- The call returns a value. -/
def IsOk (x : Go α) : Prop := ∃ a, x = .ok a

instance (x : Go α) : Decidable x.IsOk :=
  match x with
  | .ok a => isTrue ⟨a, rfl⟩
  | .error _ => isFalse fun ⟨_, h⟩ => by cases h
  | .panic _ => isFalse fun ⟨_, h⟩ => by cases h

/-- An assertion that panics when it fails. -/
def assume (c : Prop) [Decidable c] (reason : String) : Go Unit := if c then .ok () else .panic reason

@[simp]
theorem pure_eq (a : α) : (pure a : Go α) = .ok a := rfl

@[simp]
theorem ok_bind (a : α) (f : α → Go β) : ((Go.ok a : Go α) >>= f) = f a := rfl

@[simp]
theorem error_bind (reason : String) (f : α → Go β) : ((Go.error reason : Go α) >>= f) = .error reason :=
  rfl

@[simp]
theorem panic_bind (reason : String) (f : α → Go β) : ((Go.panic reason : Go α) >>= f) = .panic reason :=
  rfl

/-- **Peeling a call apart.** -/
theorem bind_eq_ok {x : Go α} {f : α → Go β} {b : β} :
    (x >>= f) = .ok b ↔ ∃ a, x = .ok a ∧ f a = .ok b := by
  cases x <;> simp

/-- **A loop that maps a list** returns what its calls have returned. -/
theorem mapM_eq_ok {f : α → Go β} {l : List α} {r : List β} (h : l.mapM f = .ok r) :
    List.Forall₂ (fun a b => f a = .ok b) l r := by
  -- the loop keeps what it has in reverse
  have hloop : ∀ acc, List.mapM.loop f l acc = .ok r →
      ∃ bs, r = acc.reverse ++ bs ∧ List.Forall₂ (fun a b => f a = .ok b) l bs := by
    clear h
    induction l with
    | nil =>
      intro acc h
      refine ⟨[], ?_, .nil⟩
      rw [List.append_nil]
      exact (Go.ok.inj h).symm
    | cons a l ih =>
      intro acc h
      obtain ⟨b, hb, h⟩ := bind_eq_ok.mp h
      obtain ⟨bs, rfl, hbs⟩ := ih (b :: acc) h
      refine ⟨b :: bs, ?_, .cons hb hbs⟩
      rw [List.reverse_cons, List.append_assoc]
      rfl
  obtain ⟨bs, rfl, hbs⟩ := hloop [] h
  exact hbs

/-- What a loop returns, it has got from one of its calls. -/
theorem mem_of_mapM_eq_ok {f : α → Go β} {l : List α} {r : List β} (h : l.mapM f = .ok r) (b : β) :
    b ∈ r ↔ ∃ a ∈ l, f a = .ok b := by
  have hall := mapM_eq_ok h
  clear h
  induction hall with
  | nil => simp
  | cons hab _ ih =>
    rw [List.mem_cons, List.exists_mem_cons_iff, hab, Go.ok.injEq]
    exact or_congr eq_comm ih

/-- If a loop returns, all its calls have. -/
theorem isOk_of_mapM_eq_ok {f : α → Go β} {l : List α} {r : List β} (h : l.mapM f = .ok r) :
    ∀ a ∈ l, (f a).IsOk := by
  have hall := mapM_eq_ok h
  clear h
  induction hall with
  | nil => exact fun a ha => nomatch ha
  | cons hab _ ih => exact List.forall_mem_cons.mpr ⟨⟨_, hab⟩, ih⟩

/-- A loop returns if all its calls do. -/
theorem mapM_isOk {f : α → Go β} {l : List α} (h : ∀ a ∈ l, (f a).IsOk) : (l.mapM f).IsOk := by
  have hloop : ∀ acc, (List.mapM.loop f l acc).IsOk := by
    induction l with
    | nil => exact fun acc => ⟨_, rfl⟩
    | cons a l ih =>
      intro acc
      obtain ⟨b, hb⟩ := h a List.mem_cons_self
      obtain ⟨r, hr⟩ := ih (fun a' ha' => h a' (List.mem_cons_of_mem _ ha')) (b :: acc)
      exact ⟨r, bind_eq_ok.mpr ⟨b, hb, hr⟩⟩
  exact hloop []

/-- A sequence panics in one of its calls. -/
theorem bind_eq_panic {x : Go α} {f : α → Go β} {reason : String} :
    (x >>= f) = .panic reason ↔ x = .panic reason ∨ ∃ a, x = .ok a ∧ f a = .panic reason := by
  cases x <;> simp

@[simp]
theorem isOk_ok (a : α) : (Go.ok a).IsOk := ⟨a, rfl⟩

@[simp]
theorem not_isOk_error (reason : String) : ¬(Go.error reason : Go α).IsOk := by
  rintro ⟨_, h⟩
  cases h

@[simp]
theorem not_isOk_panic (reason : String) : ¬(Go.panic reason : Go α).IsOk := by
  rintro ⟨_, h⟩
  cases h

/-- A sequence returns when its first call does and the rest returns. -/
theorem isOk_bind {x : Go α} {f : α → Go β} : (x >>= f).IsOk ↔ ∃ a, x = .ok a ∧ (f a).IsOk := by
  cases x <;> simp

@[simp]
theorem assume_eq_ok {c : Prop} [Decidable c] {reason : String} {u : Unit} :
    assume c reason = .ok u ↔ c := by
  unfold assume
  split <;> simp_all

end Go

end Wormhole.Lib
