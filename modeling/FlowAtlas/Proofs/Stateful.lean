import Mathlib.Logic.Relation

/-!
# Steps that may fail

A step that changes a state and may fail is an `EStateM`.  `EStateM.Result.state` is what it leaves
behind in either case, and the lemmas below take a step apart that is known to have succeeded.
-/

set_option autoImplicit false

namespace EStateM

variable {ε ε' σ α β : Type}

/-- The state after a step, whether it failed or not. -/
def Result.state : Result ε σ α → σ
  | .ok _ s => s
  | .error _ s => s

@[simp] theorem Result.state_ok (a : α) (s : σ) : (Result.ok a s : Result ε σ α).state = s := rfl

@[simp] theorem Result.state_error (e : ε) (s : σ) :
    (Result.error e s : Result ε σ α).state = s := rfl

theorem get_eq_ok (s : σ) : (get : EStateM ε σ σ) s = .ok s s := rfl

theorem modify_eq_ok (f : σ → σ) (s : σ) : (modify f : EStateM ε σ PUnit) s = .ok ⟨⟩ (f s) := rfl

/-- A result that can be evaluated to a success with a property. -/
theorem Result.exists_ok_of_decide (result : Result ε σ α) (p : σ → Prop) [DecidablePred p]
    (h : (match result with | .ok _ s => decide (p s) | .error _ _ => false) = true) :
    ∃ a s, result = .ok a s ∧ p s := by
  cases result with
  | ok a s => exact ⟨a, s, rfl, of_decide_eq_true h⟩
  | error e s => cases h

variable {x : EStateM ε σ α} {f : α → EStateM ε σ β} {s s' : σ} {b : β}

/-- Two steps succeed when the first does and the second does after it. -/
theorem bind_eq_ok_iff :
    (x >>= f) s = .ok b s' ↔ ∃ a s₁, x s = .ok a s₁ ∧ f a s₁ = .ok b s' := by
  show EStateM.bind x f s = _ ↔ _
  rw [EStateM.bind]
  cases x s with
  | ok a s₁ =>
    refine ⟨fun h => ⟨a, s₁, rfl, h⟩, ?_⟩
    rintro ⟨_, _, h, hf⟩
    cases h
    exact hf
  | error e s₁ =>
    refine iff_of_false (fun h => by cases h) ?_
    rintro ⟨_, _, h, _⟩
    cases h

theorem bind_of_ok {a : α} {s₁ : σ} (h : x s = .ok a s₁) : (x >>= f) s = f a s₁ := by
  show EStateM.bind x f s = _
  rw [EStateM.bind, h]

theorem bind_of_error {e : ε} {s₁ : σ} (h : x s = .error e s₁) : (x >>= f) s = .error e s₁ := by
  show EStateM.bind x f s = _
  rw [EStateM.bind, h]

theorem adaptExcept_eq_ok_iff {g : ε → ε'} {a : α} :
    (x.adaptExcept g) s = .ok a s' ↔ x s = .ok a s' := by
  rw [EStateM.adaptExcept]
  cases x s with
  | ok a s₁ => exact ⟨fun h => by cases h; rfl, fun h => by cases h; rfl⟩
  | error e s₁ => exact iff_of_false (fun h => by cases h) fun h => by cases h

/-- Steps for the members of a list succeed when the first does and the others do after it. -/
theorem forM_cons_eq_ok_iff {step : α → EStateM ε σ PUnit} {a : α} {l : List α} {u : PUnit} :
    (a :: l).forM step s = .ok u s' ↔ ∃ s₁, step a s = .ok ⟨⟩ s₁ ∧ l.forM step s₁ = .ok u s' := by
  show (step a >>= fun _ => l.forM step) s = _ ↔ _
  rw [bind_eq_ok_iff]
  exact ⟨fun ⟨_, s₁, h⟩ => ⟨s₁, h⟩, fun ⟨s₁, h⟩ => ⟨⟨⟩, s₁, h⟩⟩

theorem forM_append_eq_ok_iff {step : α → EStateM ε σ PUnit} {l l' : List α} {u : PUnit} :
    (l ++ l').forM step s = .ok u s' ↔
      ∃ s₁, l.forM step s = .ok ⟨⟩ s₁ ∧ l'.forM step s₁ = .ok u s' := by
  induction l generalizing s with
  | nil =>
    constructor
    · exact fun h => ⟨s, rfl, h⟩
    · rintro ⟨s₁, h, h'⟩
      cases h
      exact h'
  | cons a l ih =>
    rw [List.cons_append, forM_cons_eq_ok_iff]
    constructor
    · rintro ⟨s₁, ha, hrest⟩
      obtain ⟨s₂, hl, hl'⟩ := ih.1 hrest
      exact ⟨s₂, forM_cons_eq_ok_iff.2 ⟨s₁, ha, hl⟩, hl'⟩
    · rintro ⟨s₂, h, hl'⟩
      obtain ⟨s₁, ha, hl⟩ := forM_cons_eq_ok_iff.1 h
      exact ⟨s₁, ha, ih.2 ⟨s₂, hl, hl'⟩⟩

/-- Checks that only look at what they are given pass one after the other when each of them does. -/
theorem forM_eq_ok_iff_of_check {check : α → EStateM ε σ PUnit} {p : α → Prop}
    (hcheck : ∀ a s u s', check a s = .ok u s' ↔ s' = s ∧ p a) {l : List α} {u : PUnit} :
    l.forM check s = .ok u s' ↔ s' = s ∧ ∀ a ∈ l, p a := by
  induction l generalizing s with
  | nil =>
    constructor
    · intro h
      cases h
      exact ⟨rfl, by simp⟩
    · rintro ⟨rfl, -⟩
      rfl
  | cons a l ih =>
    rw [forM_cons_eq_ok_iff, List.forall_mem_cons]
    constructor
    · rintro ⟨s₁, ha, hl⟩
      obtain ⟨rfl, hp⟩ := (hcheck a s ⟨⟩ s₁).1 ha
      obtain ⟨hs, hall⟩ := ih.1 hl
      exact ⟨hs, hp, hall⟩
    · rintro ⟨hs, hp, hall⟩
      exact ⟨s, (hcheck a s ⟨⟩ s).2 ⟨rfl, hp⟩, ih.2 ⟨hs, hall⟩⟩

/-- What each step keeps, where it succeeds, holds after all of them. -/
theorem preserved_of_forM_eq_ok {step : α → EStateM ε σ PUnit} {p : σ → Prop}
    (hstep : ∀ a s s', p s → step a s = .ok ⟨⟩ s' → p s') {l : List α} {u : PUnit}
    (h : l.forM step s = .ok u s') (hp : p s) : p s' := by
  induction l generalizing s with
  | nil =>
    cases h
    exact hp
  | cons a l ih =>
    obtain ⟨s₁, ha, hl⟩ := forM_cons_eq_ok_iff.1 h
    exact ih hl (hstep a s s₁ hp ha)

/-- Checks that leave the state alone where they pass do so one after the other. -/
theorem state_eq_of_forM_eq_ok {check : α → EStateM ε σ PUnit}
    (hcheck : ∀ a s u s', check a s = .ok u s' → s' = s) {l : List α} {u : PUnit}
    (h : l.forM check s = .ok u s') : s' = s :=
  preserved_of_forM_eq_ok (p := fun s₁ => s₁ = s)
    (fun a s₁ s₂ heq ha => (hcheck a s₁ ⟨⟩ s₂ ha).trans heq) h rfl

end EStateM

/-! ## Without a state, or without failure -/

/-- Two computations succeed when the first does and the second does with its value. -/
theorem Except.bind_eq_ok_iff {ε α β : Type} {x : Except ε α} {f : α → Except ε β} {b : β} :
    (x >>= f) = .ok b ↔ ∃ a, x = .ok a ∧ f a = .ok b := by
  cases x with
  | ok a =>
    refine ⟨fun h => ⟨a, rfl, h⟩, ?_⟩
    rintro ⟨_, h, hf⟩
    cases h
    exact hf
  | error e =>
    refine iff_of_false (fun h => by cases h) ?_
    rintro ⟨_, h, _⟩
    cases h

/-- The second step starts from where the first one led. -/
theorem StateM.bind_of_eq {σ α β : Type} {x : StateM σ α} {f : α → StateM σ β} {a : α} {s s₁ : σ}
    (h : x s = (a, s₁)) : (x >>= f) s = f a s₁ := by
  show (match x s with | (a, s₁) => f a s₁) = _
  rw [h]

/-!
## Runs that may break off

A step that fails leaves a state behind as well, and so do the steps before it.

* `EStateM.Follows` says that a step goes along a relation as far as it goes.  What the relation
  preserves then holds whether the step fails or not.
* `EStateM.exists_ok_forM` is the rule for a loop that never fails, with an invariant that may speak
  of what the loop has taken in.
* `EStateM.Throws` says of what kind the errors of a step are.
-/

namespace EStateM

open Relation

variable {ε ε' σ τ α β : Type} {x : EStateM ε σ α} {f : α → EStateM ε σ β} {s : σ}

/-- Two steps fail when the first does, or the second after it. -/
theorem bind_eq_error_iff {e : ε} {s' : σ} :
    (x >>= f) s = .error e s' ↔
      x s = .error e s' ∨ ∃ a s₁, x s = .ok a s₁ ∧ f a s₁ = .error e s' := by
  cases hr : x s with
  | ok a s₁ =>
    rw [bind_of_ok hr]
    refine ⟨fun h => Or.inr ⟨a, s₁, rfl, h⟩, ?_⟩
    rintro (h | ⟨_, _, h, hf⟩)
    · cases h
    · cases h
      exact hf
  | error e₁ s₁ =>
    rw [bind_of_error hr]
    constructor
    · intro h
      cases h
      exact Or.inl rfl
    · rintro (h | ⟨_, _, h, -⟩)
      · cases h
        rfl
      · cases h

/-- What the second step leaves alone is as the first step left it. -/
theorem state_bind_eq (view : σ → τ) (hf : ∀ a s₁, view (f a s₁).state = view s₁) :
    view ((x >>= f) s).state = view (x s).state := by
  cases hr : x s with
  | ok a s₁ =>
    rw [bind_of_ok hr]
    exact hf a s₁
  | error e s₁ => rw [bind_of_error hr]; rfl

/-! ### Going along a relation -/

/-- What every step along a relation preserves holds at the end. -/
theorem preserved_of_reflTransGen {R : τ → τ → Prop} {p : τ → Prop} {a b : τ}
    (h : ReflTransGen R a b) (hR : ∀ a b, R a b → p a → p b) (ha : p a) : p b := by
  induction h with
  | refl => exact ha
  | tail _ hstep ih => exact hR _ _ hstep ih

/-- As far as `view` shows, the step goes along `R`, whether it fails or not. -/
def Follows (R : τ → τ → Prop) (view : σ → τ) (x : EStateM ε σ α) (s : σ) : Prop :=
  ReflTransGen R (view s) (view (x s).state)

namespace Follows

variable {R : τ → τ → Prop} {view : σ → τ}

theorem of_eq (h : view (x s).state = view s) : Follows R view x s := by
  rw [Follows, h]

theorem single (h : R (view s) (view (x s).state)) : Follows R view x s := ReflTransGen.single h

/-- What comes after a step matters only if the step succeeds. -/
theorem bind (hx : Follows R view x s)
    (hf : ∀ a s₁, x s = .ok a s₁ → Follows R view (f a) s₁) : Follows R view (x >>= f) s := by
  rw [Follows] at hx ⊢
  cases hr : x s with
  | ok a s₁ =>
    rw [hr] at hx
    rw [bind_of_ok hr]
    exact hx.trans (hf a s₁ hr)
  | error e s₁ =>
    rw [hr] at hx
    rw [bind_of_error hr]
    exact hx

theorem adaptExcept {g : ε → ε'} (hx : Follows R view x s) :
    Follows R view (x.adaptExcept g) s := by
  rw [Follows] at hx ⊢
  have hstate : (x.adaptExcept g s).state = (x s).state := by
    rw [EStateM.adaptExcept]
    cases x s with
    | ok a s₁ => rfl
    | error e s₁ => rfl
  rw [hstate]
  exact hx

/-- A loop goes along `R` when each of its steps does.  What the steps keep may speak of the
elements that were taken in. -/
theorem forM {step : α → EStateM ε σ PUnit} {p : List α → σ → Prop} {l : List α}
    (hstep : ∀ done a rest s, l = done ++ a :: rest → p done s →
      Follows R view (step a) s ∧ ∀ s', step a s = .ok ⟨⟩ s' → p (done ++ [a]) s')
    (hnil : p [] s) : Follows R view (l.forM step) s := by
  suffices h : ∀ rest done s, l = done ++ rest → p done s → Follows R view (rest.forM step) s from
    h l [] s rfl hnil
  intro rest
  induction rest with
  | nil => exact fun _ s _ _ => of_eq rfl
  | cons a rest ih =>
    intro done s hl hp
    obtain ⟨hfollows, hkeeps⟩ := hstep done a rest s hl hp
    refine bind (f := fun _ => rest.forM step) hfollows fun _ s₁ hr => ?_
    exact ih (done ++ [a]) s₁ (by rw [hl, List.append_assoc]; rfl) (hkeeps s₁ hr)

end Follows

/-! ### Loops that never fail -/

/-- A loop succeeds when each step does, and then what the steps keep holds of the whole list.  The
invariant speaks of the elements that were taken in. -/
theorem exists_ok_forM {step : α → EStateM ε σ PUnit} {p : List α → σ → Prop} {l : List α}
    (hnil : p [] s)
    (hstep : ∀ done a rest s, l = done ++ a :: rest → p done s →
      ∃ s', step a s = .ok ⟨⟩ s' ∧ p (done ++ [a]) s') :
    ∃ s', l.forM step s = .ok ⟨⟩ s' ∧ p l s' := by
  -- the induction is on what is left, and the invariant has grown by what was taken in
  suffices h : ∀ rest done s, l = done ++ rest → p done s →
      ∃ s', rest.forM step s = .ok ⟨⟩ s' ∧ p l s' from h l [] s rfl hnil
  intro rest
  induction rest with
  | nil =>
    intro done s hl hp
    rw [List.append_nil] at hl
    exact ⟨s, rfl, hl ▸ hp⟩
  | cons a rest ih =>
    intro done s hl hp
    obtain ⟨s₁, ha, hp₁⟩ := hstep done a rest s hl hp
    obtain ⟨s', hrest, hp'⟩ := ih (done ++ [a]) s₁ (by rw [hl, List.append_assoc]; rfl) hp₁
    exact ⟨s', forM_cons_eq_ok_iff.2 ⟨s₁, ha, hrest⟩, hp'⟩

/-! ### Errors -/

/-- A result that can be evaluated to a failure. -/
theorem Result.exists_error_of_decide [DecidableEq ε] {result : Result ε σ α} {e : ε}
    (h : (match result with | .ok _ _ => false | .error e' _ => decide (e' = e)) = true) :
    ∃ s, result = .error e s := by
  cases result with
  | ok a s => cases h
  | error e' s => exact ⟨s, by rw [of_decide_eq_true h]⟩

/-- Every error of the step has the property. -/
def Throws (p : ε → Prop) (x : EStateM ε σ α) : Prop := ∀ s e s', x s = .error e s' → p e

namespace Throws

variable {p : ε → Prop}

theorem of_ok (h : ∀ s, ∃ a s', x s = .ok a s') : Throws p x := by
  intro s e s' hr
  obtain ⟨a, s₁, hok⟩ := h s
  cases hok.symm.trans hr

theorem bind (hx : Throws p x) (hf : ∀ a, Throws p (f a)) : Throws p (x >>= f) := by
  intro s e s' hr
  cases hxr : x s with
  | ok a s₁ =>
    rw [bind_of_ok hxr] at hr
    exact hf a s₁ e s' hr
  | error e₁ s₁ =>
    rw [bind_of_error hxr] at hr
    cases hr
    exact hx s e s' hxr

theorem forM {step : α → EStateM ε σ PUnit} {l : List α} (h : ∀ a ∈ l, Throws p (step a)) :
    Throws p (l.forM step) := by
  induction l with
  | nil => exact of_ok fun s => ⟨⟨⟩, s, rfl⟩
  | cons a l ih =>
    refine bind (f := fun _ => l.forM step) (h a List.mem_cons_self) fun _ => ?_
    exact ih fun b hb => h b (List.mem_cons_of_mem a hb)

end Throws
end EStateM
