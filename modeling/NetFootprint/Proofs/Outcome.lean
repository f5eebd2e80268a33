import Mathlib.Data.List.Forall2
import Mathlib.Data.List.Perm.Basic
import NetFootprint.Fault

/-!
# Outcomes

When a computation that may fail gives a result: its steps give results one after the other, and
the result of the last is the result of the whole. These rules take a computation apart step by
step.
-/

namespace NetFootprint

section

variable {ε α β : Type}

theorem bind_eq_ok {x : Except ε α} {f : α → Except ε β} {b : β} :
    x >>= f = .ok b ↔ ∃ a, x = .ok a ∧ f a = .ok b := by
  cases x <;> simp [bind, Except.bind]

theorem ok_bind {a : α} {f : α → Except ε β} : (Except.ok a >>= f) = f a := rfl

theorem bind_congr_of_ok {x : Except ε α} {f g : α → Except ε β} (h : ∀ a, x = .ok a → f a = g a) :
    x >>= f = x >>= g := by
  cases hx : x with
  | error e => rfl
  | ok a => exact h a hx

theorem eq_of_ok {x : Except ε α} {a b : α} (ha : x = .ok a) (hb : x = .ok b) : a = b :=
  Except.ok.inj (ha.symm.trans hb)

theorem pure_eq_ok {a b : α} : (pure a : Except ε α) = .ok b ↔ a = b := by
  simp [pure, Except.pure]

theorem throw_eq_ok {e : ε} {a : α} : (throw e : Except ε α) = .ok a ↔ False := by
  simp [throw, throwThe, MonadExceptOf.throw]

theorem ite_eq_ok {c : Prop} [Decidable c] {x y : Except ε α} {a : α} :
    (if c then x else y) = .ok a ↔ (c ∧ x = .ok a) ∨ (¬c ∧ y = .ok a) := by
  by_cases h : c <;> simp [h]

/-- A result that is known to pass a test can be named. -/
theorem exists_of_any {x : Except ε α} {p : α → Bool} (h : x.toOption.any p = true) :
    ∃ a, x = .ok a ∧ p a = true := by
  cases x with
  | error e => cases h
  | ok a => exact ⟨a, rfl, h⟩

theorem toOption_isSome_iff {x : Except ε α} : x.toOption.isSome = true ↔ ∃ a, x = .ok a := by
  cases x <;> simp [Except.toOption]

theorem exists_forall₂_iff {α β : Type} {R : α → β → Prop} {xs : List α} :
    (∃ ys, List.Forall₂ R xs ys) ↔ ∀ x ∈ xs, ∃ y, R x y := by
  induction xs with
  | nil => simp
  | cons x xs ih =>
    rw [List.forall_mem_cons, ← ih]
    constructor
    · rintro ⟨_, h⟩
      cases h with
      | cons hx hxs => exact ⟨⟨_, hx⟩, _, hxs⟩
    · rintro ⟨⟨y, hy⟩, ys, hys⟩
      exact ⟨y :: ys, .cons hy hys⟩

theorem mapM_eq_ok {f : α → Except ε β} {xs : List α} {ys : List β} :
    xs.mapM f = .ok ys ↔ List.Forall₂ (fun x y => f x = .ok y) xs ys := by
  induction xs generalizing ys with
  | nil => cases ys <;> simp [pure, Except.pure]
  | cons x xs ih =>
    simp only [List.mapM_cons, bind_eq_ok, pure_eq_ok, ih]
    constructor
    · rintro ⟨y, hy, rest, hrest, rfl⟩
      exact .cons hy hrest
    · intro h
      cases h with
      | cons hy hrest => exact ⟨_, hy, _, hrest, rfl⟩

theorem exists_mapM_eq_ok {f : α → Except ε β} {xs : List α} :
    (∃ ys, xs.mapM f = .ok ys) ↔ ∀ x ∈ xs, ∃ y, f x = .ok y := by
  induction xs with
  | nil => simp [pure, Except.pure]
  | cons x xs ih =>
    simp only [List.mapM_cons, bind_eq_ok, pure_eq_ok, List.forall_mem_cons, ← ih]
    constructor
    · rintro ⟨_, y, hy, ys, hys, -⟩
      exact ⟨⟨y, hy⟩, ys, hys⟩
    · rintro ⟨⟨y, hy⟩, ys, hys⟩
      exact ⟨_, y, hy, ys, hys, rfl⟩

theorem mapM_congr {f f' : α → Except ε β} {xs : List α} (h : ∀ x ∈ xs, f x = f' x) :
    xs.mapM f = xs.mapM f' := by
  induction xs with
  | nil => rfl
  | cons x xs ih =>
    obtain ⟨hx, hxs⟩ := List.forall_mem_cons.mp h
    rw [List.mapM_cons, List.mapM_cons, hx, ih hxs]

/-- In another order the results are the same in another order. -/
theorem mapM_perm {f : α → Except ε β} {xs xs' : List α} {ys : List β} (hperm : xs.Perm xs')
    (h : xs.mapM f = .ok ys) : ∃ ys', xs'.mapM f = .ok ys' ∧ ys.Perm ys' := by
  obtain ⟨ys', hys', hperm'⟩ := List.perm_comp_forall₂ hperm.symm (mapM_eq_ok.mp h)
  exact ⟨ys', mapM_eq_ok.mpr hys', hperm'.symm⟩

end

/-! ## Lists side by side -/

section

variable {α α' β β' : Type} {R : α → α' → Prop} {S : β → β' → Prop}

theorem exists_of_mem_right {xs : List α} {ys : List α'} (h : List.Forall₂ R xs ys) {y : α'}
    (hy : y ∈ ys) : ∃ x ∈ xs, R x y := by
  obtain ⟨i, hi, rfl⟩ := List.mem_iff_getElem.mp hy
  have hx : i < xs.length := h.length_eq ▸ hi
  exact ⟨xs[i], List.getElem_mem hx, (List.forall₂_iff_get.mp h).2 i hx hi⟩

theorem exists_at_right {xs : List α} {ys : List α'} (h : List.Forall₂ R xs ys) {i : Nat} {y : α'}
    (hy : ys[i]? = some y) : ∃ x, xs[i]? = some x ∧ R x y := by
  obtain ⟨hi, rfl⟩ := List.getElem?_eq_some_iff.mp hy
  have hx : i < xs.length := h.length_eq ▸ hi
  exact ⟨xs[i], List.getElem?_eq_getElem hx, (List.forall₂_iff_get.mp h).2 i hx hi⟩

theorem rel_mem {xs : List α} {ys : List α'} (h : List.Forall₂ R xs ys) :
    List.Forall₂ (fun x y => x ∈ xs ∧ y ∈ ys ∧ R x y) xs ys := by
  have hright := (List.forall₂_and_left _ _).mpr ⟨fun _ hy => hy, h.flip⟩
  exact (List.forall₂_and_left _ _).mpr ⟨fun _ hx => hx, hright.flip⟩

theorem rel_zip {as : List α} {as' : List α'} {bs : List β} {bs' : List β'}
    (h : List.Forall₂ R as as') (h' : List.Forall₂ S bs bs') :
    List.Forall₂ (fun p p' => R p.1 p'.1 ∧ S p.2 p'.2) (as.zip bs) (as'.zip bs') := by
  induction h generalizing bs bs' with
  | nil => exact .nil
  | cons hR _ ih =>
    cases h' with
    | nil => exact .nil
    | cons hS hrest => exact .cons ⟨hR, hS⟩ (ih hrest)

theorem rel_zipIdx {as : List α} {as' : List α'} (h : List.Forall₂ R as as') :
    List.Forall₂ (fun p p' => R p.1 p'.1 ∧ p.2 = p'.2) as.zipIdx as'.zipIdx := by
  rw [List.zipIdx_eq_zip_range', List.zipIdx_eq_zip_range', ← h.length_eq]
  exact rel_zip h (List.forall₂_refl _)

theorem rel_trans {γ : Type} {T : β → γ → Prop} {U : α → γ → Prop} {R : α → β → Prop}
    (hU : ∀ a b c, R a b → T b c → U a c) {as : List α} {bs : List β} {cs : List γ}
    (h : List.Forall₂ R as bs) (h' : List.Forall₂ T bs cs) : List.Forall₂ U as cs := by
  induction h generalizing cs with
  | nil =>
    cases h'
    exact .nil
  | cons hR _ ih =>
    cases h' with
    | cons hT hrest => exact .cons (hU _ _ _ hR hT) (ih hrest)

theorem rel_getElem? {as : List α} {as' : List α'} (h : List.Forall₂ R as as') {i : Nat} {a : α}
    {a' : α'} (ha : as[i]? = some a) (ha' : as'[i]? = some a') : R a a' := by
  obtain ⟨hi, rfl⟩ := List.getElem?_eq_some_iff.mp ha
  obtain ⟨hi', rfl⟩ := List.getElem?_eq_some_iff.mp ha'
  exact (List.forall₂_iff_get.mp h).2 i hi hi'

theorem any_same {as : List α} {as' : List α'} (h : List.Forall₂ R as as') {f : α → Bool}
    {f' : α' → Bool} (hf : ∀ a a', R a a' → f' a' = f a) : as'.any f' = as.any f := by
  induction h with
  | nil => rfl
  | cons hR _ ih => rw [List.any_cons, List.any_cons, ih, hf _ _ hR]

end

/-! ## Failures -/

variable {α : Type}

theorem lift_eq_ok {x : Except Misuse α} {a : α} :
    (liftM x : Except Failure α) = .ok a ↔ x = .ok a := by
  cases x <;> simp [liftM, monadLift, MonadLift.monadLift, Except.mapError]

theorem explain_eq_ok {f : Fault} {x : Except Misuse α} {a : α} :
    explain f x = .ok a ↔ x = .ok a := by
  unfold explain
  split <;> simp_all

/-! ## Failures of a kind -/

/-- Whatever a computation fails with is of some kind. -/
def FailsOnly {ε α : Type} (P : ε → Prop) (x : Except ε α) : Prop := ∀ e, x = .error e → P e

namespace FailsOnly

section

variable {ε α β : Type} {P Q : ε → Prop}

theorem ok (a : α) : FailsOnly P (.ok a : Except ε α) := by
  intro e h
  cases h

theorem of_ok {x : Except ε α} (h : ∃ a, x = .ok a) : FailsOnly P x := by
  obtain ⟨a, rfl⟩ := h
  exact ok a

theorem error {e : ε} (h : P e) : FailsOnly P (.error e : Except ε α) := by
  intro e' he
  obtain rfl := Except.error.inj he
  exact h

theorem mono {x : Except ε α} (h : FailsOnly P x) (hPQ : ∀ e, P e → Q e) : FailsOnly Q x :=
  fun e he => hPQ e (h e he)

/-- A later step is reached only with a result of the earlier one. -/
theorem bind {x : Except ε α} {f : α → Except ε β} (hx : FailsOnly P x)
    (hf : ∀ a, x = .ok a → FailsOnly P (f a)) : FailsOnly P (x >>= f) := by
  intro e he
  cases hxa : x with
  | error e' =>
    rw [hxa] at he
    obtain rfl := Except.error.inj he
    exact hx e' hxa
  | ok a =>
    rw [hxa] at he
    exact hf a hxa e he

theorem step {x : Except ε α} {f : α → Except ε β} {a : α} (hx : x = .ok a)
    (hf : FailsOnly P (f a)) : FailsOnly P (x >>= f) := by
  rw [hx]
  exact hf

theorem ite {c : Prop} [Decidable c] {x y : Except ε α} (hx : c → FailsOnly P x)
    (hy : ¬c → FailsOnly P y) : FailsOnly P (if c then x else y) := by
  by_cases h : c
  · rw [if_pos h]
    exact hx h
  · rw [if_neg h]
    exact hy h

theorem mapM {f : α → Except ε β} {xs : List α} (h : ∀ x ∈ xs, FailsOnly P (f x)) :
    FailsOnly P (xs.mapM f) := by
  induction xs with
  | nil => exact ok []
  | cons x xs ih =>
    rw [List.mapM_cons]
    refine bind (h x (by simp)) fun y _ => ?_
    refine bind (ih fun x' hx' => h x' (List.mem_cons_of_mem x hx')) fun ys _ => ?_
    exact ok _

end

variable {α : Type} {P : Failure → Prop} {x : Except Misuse α}

theorem lift (h : FailsOnly (fun m => P (.misuse m)) x) :
    FailsOnly P (liftM x : Except Failure α) := by
  intro e he
  cases hx : x with
  | ok a =>
    rw [hx] at he
    cases he
  | error m =>
    rw [hx] at he
    obtain rfl := Except.error.inj he
    exact h m hx

theorem explain {f : Fault} (hf : P (.fault f))
    (h : FailsOnly (fun m => m = .wrongKind ∨ m = .malformed ∨ P (.misuse m)) x) :
    FailsOnly P (explain f x) := by
  intro e he
  cases hx : x with
  | ok a =>
    rw [hx] at he
    cases he
  | error m =>
    have hm := h m hx
    rw [hx] at he
    cases m with
    | wrongKind | malformed =>
      obtain rfl := Except.error.inj he
      exact hf
    | _ =>
      obtain rfl := Except.error.inj he
      simpa using hm

end FailsOnly

/-! ## Computations that go together -/

/-- The second computation gives what the first one gives, changed by a function; if the first
fails, then so does the second, and with the same error. -/
def Mirrors {ε α β : Type} (φ : α → β) (x : Except ε α) (y : Except ε β) : Prop := y = x.map φ

namespace Mirrors

section

variable {ε α α' β β' : Type} {φ : α → α'} {ψ : β → β'}

theorem ok (a : α) : Mirrors φ (.ok a : Except ε α) (.ok (φ a)) := rfl

theorem error (e : ε) : Mirrors φ (.error e) (.error e) := rfl

theorem bind {x : Except ε α} {y : Except ε α'} {f : α → Except ε β} {g : α' → Except ε β'}
    (h : Mirrors φ x y) (hfg : ∀ a, x = .ok a → Mirrors ψ (f a) (g (φ a))) :
    Mirrors ψ (x >>= f) (y >>= g) := by
  cases hx : x with
  | error e =>
    rw [hx] at h
    rw [show y = .error e from h]
    exact error e
  | ok a =>
    rw [hx] at h
    rw [show y = .ok (φ a) from h]
    exact hfg a hx

theorem step {x y : Except ε α} {f : α → Except ε β} {g : α → Except ε β'} (h : y = x)
    (hfg : ∀ a, x = .ok a → Mirrors ψ (f a) (g a)) : Mirrors ψ (x >>= f) (y >>= g) := by
  subst h
  cases hx : y with
  | error e => exact error e
  | ok a => exact hfg a hx

theorem ite {c : Prop} [Decidable c] {x₁ x₂ : Except ε α} {y₁ y₂ : Except ε α'}
    (h₁ : c → Mirrors φ x₁ y₁) (h₂ : ¬c → Mirrors φ x₂ y₂) :
    Mirrors φ (if c then x₁ else x₂) (if c then y₁ else y₂) := by
  by_cases h : c
  · rw [if_pos h, if_pos h]
    exact h₁ h
  · rw [if_neg h, if_neg h]
    exact h₂ h

theorem mapM {γ γ' : Type} {χ : γ → γ'} {f : γ → Except ε α} {g : γ' → Except ε α'}
    {xs : List γ} (h : ∀ x ∈ xs, Mirrors φ (f x) (g (χ x))) :
    Mirrors (List.map φ) (xs.mapM f) ((xs.map χ).mapM g) := by
  induction xs with
  | nil => exact ok []
  | cons x xs ih =>
    rw [List.map_cons, List.mapM_cons, List.mapM_cons]
    refine bind (h x List.mem_cons_self) fun a _ => ?_
    exact bind (ih fun x' hx' => h x' (List.mem_cons_of_mem x hx')) fun as _ => ok (a :: as)

theorem mapM_same {γ : Type} {f : γ → Except ε α} {g : γ → Except ε α'} {xs : List γ}
    (h : ∀ x ∈ xs, Mirrors φ (f x) (g x)) : Mirrors (List.map φ) (xs.mapM f) (xs.mapM g) := by
  have hmap : Mirrors (List.map φ) (xs.mapM f) ((xs.map id).mapM g) := mapM h
  rwa [List.map_id] at hmap

theorem foldlM {γ : Type} {f : α → γ → Except ε α} {g : α' → γ → Except ε α'}
    (h : ∀ a c, Mirrors φ (f a c) (g (φ a) c)) (cs : List γ) (start : α) :
    Mirrors φ (cs.foldlM f start) (cs.foldlM g (φ start)) := by
  induction cs generalizing start with
  | nil => exact ok start
  | cons c cs ih =>
    rw [List.foldlM_cons, List.foldlM_cons]
    exact bind (h start c) fun a _ => ih a

theorem eq_ok {x : Except ε α} {y : Except ε α'} (h : Mirrors φ x y) {a : α} (hx : x = .ok a) :
    y = .ok (φ a) := by
  rw [show y = x.map φ from h, hx]
  rfl

theorem eq_error {x : Except ε α} {y : Except ε α'} (h : Mirrors φ x y) {e : ε}
    (hx : x = .error e) : y = .error e := by
  rw [show y = x.map φ from h, hx]
  rfl

end

theorem lift {α α' : Type} {φ : α → α'} {x : Except Misuse α} {y : Except Misuse α'}
    (h : Mirrors φ x y) :
    Mirrors φ (liftM x : Except Failure α) (liftM y : Except Failure α') := by
  rw [show y = x.map φ from h]
  cases x <;> rfl

end Mirrors

/-! ## Computations that succeed together -/

/-- The second computation gives what the first one gives, changed by a function; if the first
fails, then so does the second, with whatever error. -/
def Parallel {ε α β : Type} (φ : α → β) (x : Except ε α) (y : Except ε β) : Prop :=
  y.toOption = x.toOption.map φ

namespace Parallel

section

variable {ε α α' β β' : Type} {φ : α → α'} {ψ : β → β'}

theorem ok (a : α) : Parallel φ (.ok a : Except ε α) (.ok (φ a)) := rfl

theorem error (e e' : ε) : Parallel φ (.error e) (.error e') := rfl

theorem of_eq {x y : Except ε α} (h : y = x) : Parallel id x y := by
  rw [Parallel, h, Option.map_id_fun, id]

theorem eq_ok {x : Except ε α} {y : Except ε α'} (h : Parallel φ x y) {a : α} (hx : x = .ok a) :
    y = .ok (φ a) := by
  rw [Parallel, hx] at h
  cases y with
  | error e => cases h
  | ok b => rw [Option.some.inj h]

theorem exists_error {x : Except ε α} {y : Except ε α'} (h : Parallel φ x y) {e : ε}
    (hx : x = .error e) : ∃ e', y = .error e' := by
  rw [Parallel, hx] at h
  cases y with
  | error e' => exact ⟨e', rfl⟩
  | ok b => cases h

theorem bind {x : Except ε α} {y : Except ε α'} {f : α → Except ε β} {g : α' → Except ε β'}
    (h : Parallel φ x y) (hfg : ∀ a, x = .ok a → Parallel ψ (f a) (g (φ a))) :
    Parallel ψ (x >>= f) (y >>= g) := by
  cases hx : x with
  | error e =>
    obtain ⟨e', rfl⟩ := h.exists_error hx
    exact error e e'
  | ok a =>
    rw [h.eq_ok hx]
    exact hfg a hx

theorem step {x y : Except ε α} {f : α → Except ε β} {g : α → Except ε β'} (h : Parallel id x y)
    (hfg : ∀ a, x = .ok a → Parallel ψ (f a) (g a)) : Parallel ψ (x >>= f) (y >>= g) :=
  bind h hfg

theorem same {x : Except ε α} {f : α → Except ε β} {g : α → Except ε β'}
    (hfg : ∀ a, x = .ok a → Parallel ψ (f a) (g a)) : Parallel ψ (x >>= f) (x >>= g) :=
  step (of_eq rfl) hfg

theorem skip {x : Except ε α} {y : Except ε α'} {z : Except ε β} {z' : Except ε β'}
    (h : y.toOption.isSome = x.toOption.isSome) (hz : Parallel ψ z z') :
    Parallel ψ (x >>= fun _ => z) (y >>= fun _ => z') := by
  cases x with
  | error e =>
    cases y with
    | error e' => exact error e e'
    | ok b => cases h
  | ok a =>
    cases y with
    | error e' => cases h
    | ok b => exact hz

theorem ite {c : Prop} [Decidable c] {x₁ x₂ : Except ε α} {y₁ y₂ : Except ε α'}
    (h₁ : c → Parallel φ x₁ y₁) (h₂ : ¬c → Parallel φ x₂ y₂) :
    Parallel φ (if c then x₁ else x₂) (if c then y₁ else y₂) := by
  by_cases h : c
  · rw [if_pos h, if_pos h]
    exact h₁ h
  · rw [if_neg h, if_neg h]
    exact h₂ h

theorem mapM {γ γ' : Type} {χ : γ → γ'} {f : γ → Except ε α} {g : γ' → Except ε α'}
    {xs : List γ} (h : ∀ x ∈ xs, Parallel φ (f x) (g (χ x))) :
    Parallel (List.map φ) (xs.mapM f) ((xs.map χ).mapM g) := by
  induction xs with
  | nil => exact ok []
  | cons x xs ih =>
    rw [List.map_cons, List.mapM_cons, List.mapM_cons]
    refine bind (h x List.mem_cons_self) fun a _ => ?_
    exact bind (ih fun x' hx' => h x' (List.mem_cons_of_mem x hx')) fun as _ => ok (a :: as)

theorem mapM_same {γ : Type} {f : γ → Except ε α} {g : γ → Except ε α'} {xs : List γ}
    (h : ∀ x ∈ xs, Parallel φ (f x) (g x)) : Parallel (List.map φ) (xs.mapM f) (xs.mapM g) := by
  have hmap : Parallel (List.map φ) (xs.mapM f) ((xs.map id).mapM g) := mapM h
  rwa [List.map_id] at hmap

theorem mapM_id {γ : Type} {f g : γ → Except ε α} {xs : List γ}
    (h : ∀ x ∈ xs, Parallel id (f x) (g x)) : Parallel id (xs.mapM f) (xs.mapM g) := by
  have hmap := mapM_same h
  rwa [List.map_id_fun] at hmap

theorem foldlM {γ γ' : Type} {χ : γ → γ'} {f : α → γ → Except ε α} {g : α' → γ' → Except ε α'}
    {P : γ → Prop} (h : ∀ a c, P c → Parallel φ (f a c) (g (φ a) (χ c))) {cs : List γ}
    (hcs : ∀ c ∈ cs, P c) (start : α) :
    Parallel φ (cs.foldlM f start) ((cs.map χ).foldlM g (φ start)) := by
  induction cs generalizing start with
  | nil => exact ok start
  | cons c cs ih =>
    obtain ⟨hc, hrest⟩ := List.forall_mem_cons.mp hcs
    rw [List.map_cons, List.foldlM_cons, List.foldlM_cons]
    exact bind (h start c hc) fun a _ => ih hrest a

end

variable {α α' : Type} {φ : α → α'} {x : Except Misuse α} {y : Except Misuse α'}

theorem lift (h : Parallel φ x y) :
    Parallel φ (liftM x : Except Failure α) (liftM y : Except Failure α') := by
  cases hx : x with
  | error m =>
    obtain ⟨m', rfl⟩ := h.exists_error hx
    exact error _ _
  | ok a =>
    rw [h.eq_ok hx]
    exact ok a

theorem explain {x : Except Misuse α} (f f' : Fault) :
    Parallel id (explain f x) (NetFootprint.explain f' x) := by
  cases x with
  | ok a => exact ok a
  | error m => cases m <;> exact error _ _

end Parallel

/-! ## Results that go together -/

/-- Whatever two computations give is related. -/
def Relate {ε α β : Type} (R : α → β → Prop) (x : Except ε α) (y : Except ε β) : Prop :=
  ∀ a b, x = .ok a → y = .ok b → R a b

namespace Relate

section

variable {ε α α' β β' : Type} {R : α → α' → Prop} {S : β → β' → Prop}

theorem ok {a : α} {b : α'} (h : R a b) : Relate R (.ok a : Except ε α) (.ok b) := by
  rintro _ _ ⟨⟩ ⟨⟩
  exact h

theorem error_left {y : Except ε α'} (e : ε) : Relate R (.error e) y := by
  intro a b ha
  cases ha

theorem error_right {x : Except ε α} (e : ε) : Relate R x (.error e) := by
  intro a b _ hb
  cases hb

theorem seq {x : Except ε α} {y : Except ε α'} {f : α → Except ε β} {g : α' → Except ε β'}
    (hfg : ∀ a b, x = .ok a → y = .ok b → Relate S (f a) (g b)) :
    Relate S (x >>= f) (y >>= g) := by
  intro c d hc hd
  obtain ⟨a, ha, hc⟩ := bind_eq_ok.mp hc
  obtain ⟨b, hb, hd⟩ := bind_eq_ok.mp hd
  exact hfg a b ha hb c d hc hd

theorem bind {x : Except ε α} {y : Except ε α'} {f : α → Except ε β} {g : α' → Except ε β'}
    (h : Relate R x y) (hfg : ∀ a b, R a b → Relate S (f a) (g b)) :
    Relate S (x >>= f) (y >>= g) :=
  seq fun a b ha hb => hfg a b (h a b ha hb)

theorem skip {x y : Except ε Unit} {f : Unit → Except ε β} {g : Unit → Except ε β'}
    (hfg : Relate S (f ()) (g ())) : Relate S (x >>= f) (y >>= g) :=
  seq fun _ _ _ _ => hfg

theorem step {x y : Except ε α} {f : α → Except ε β} {g : α → Except ε β'} (h : y = x)
    (hfg : ∀ a, x = .ok a → Relate S (f a) (g a)) : Relate S (x >>= f) (y >>= g) := by
  refine seq fun a b ha hb => ?_
  obtain rfl : a = b := eq_of_ok ha (h ▸ hb)
  exact hfg a ha

theorem ite {c : Prop} [Decidable c] {x₁ x₂ : Except ε α} {y₁ y₂ : Except ε α'}
    (h₁ : c → Relate R x₁ y₁) (h₂ : ¬c → Relate R x₂ y₂) :
    Relate R (if c then x₁ else x₂) (if c then y₁ else y₂) := by
  by_cases h : c
  · rw [if_pos h, if_pos h]
    exact h₁ h
  · rw [if_neg h, if_neg h]
    exact h₂ h

theorem mapM {γ γ' : Type} {T : γ → γ' → Prop} {f : γ → Except ε α} {g : γ' → Except ε α'}
    {xs : List γ} {ys : List γ'} (h : List.Forall₂ T xs ys)
    (hfg : ∀ x y, T x y → Relate R (f x) (g y)) :
    Relate (List.Forall₂ R) (xs.mapM f) (ys.mapM g) := by
  induction h with
  | nil => exact ok .nil
  | cons hxy _ ih =>
    rw [List.mapM_cons, List.mapM_cons]
    exact bind (hfg _ _ hxy) fun a b hab => bind ih fun as bs habs => ok (.cons hab habs)

theorem foldlM {γ γ' : Type} {T : γ → γ' → Prop} {f : α → γ → Except ε α}
    {g : α' → γ' → Except ε α'} (hfg : ∀ a b x y, R a b → T x y → Relate R (f a x) (g b y))
    {xs : List γ} {ys : List γ'} (h : List.Forall₂ T xs ys) {a : α} {b : α'} (hab : R a b) :
    Relate R (xs.foldlM f a) (ys.foldlM g b) := by
  induction h generalizing a b with
  | nil => exact ok hab
  | cons hxy _ ih =>
    rw [List.foldlM_cons, List.foldlM_cons]
    exact bind (hfg a b _ _ hab hxy) fun a' b' hab' => ih hab'

end

theorem lift {α α' : Type} {R : α → α' → Prop} {x : Except Misuse α} {y : Except Misuse α'}
    (h : Relate R x y) : Relate R (liftM x : Except Failure α) (liftM y : Except Failure α') :=
  fun a b ha hb => h a b (lift_eq_ok.mp ha) (lift_eq_ok.mp hb)

end Relate

/-! ## Results that follow -/

/-- Where one computation gives a result, so does the other, and the two results are related. -/
def Follows {ε α β : Type} (R : α → β → Prop) (x : Except ε α) (y : Except ε β) : Prop :=
  ∀ a, x = .ok a → ∃ b, y = .ok b ∧ R a b

namespace Follows

section

variable {ε α α' β β' : Type} {R : α → α' → Prop} {S : β → β' → Prop}

theorem ok {a : α} {b : α'} (h : R a b) : Follows R (.ok a : Except ε α) (.ok b) := by
  rintro _ ⟨⟩
  exact ⟨b, rfl, h⟩

theorem error {y : Except ε α'} (e : ε) : Follows R (.error e) y := by
  intro a ha
  cases ha

theorem bind {x : Except ε α} {y : Except ε α'} {f : α → Except ε β} {g : α' → Except ε β'}
    (h : Follows R x y) (hfg : ∀ a b, x = .ok a → R a b → Follows S (f a) (g b)) :
    Follows S (x >>= f) (y >>= g) := by
  intro c hc
  obtain ⟨a, ha, hc⟩ := bind_eq_ok.mp hc
  obtain ⟨b, hb, hab⟩ := h a ha
  obtain ⟨d, hd, hcd⟩ := hfg a b ha hab c hc
  exact ⟨d, bind_eq_ok.mpr ⟨b, hb, hd⟩, hcd⟩

theorem step {x y : Except ε α} {f : α → Except ε β} {g : α → Except ε β'}
    (h : ∀ a, x = .ok a → y = .ok a) (hfg : ∀ a, x = .ok a → Follows S (f a) (g a)) :
    Follows S (x >>= f) (y >>= g) := by
  have hsame : Follows Eq x y := fun a ha => ⟨a, h a ha, rfl⟩
  apply bind hsame
  rintro a _ ha rfl
  exact hfg a ha

theorem same {x y : Except ε α} {f : α → Except ε β} {g : α → Except ε β'} (h : y = x)
    (hfg : ∀ a, x = .ok a → Follows S (f a) (g a)) : Follows S (x >>= f) (y >>= g) := by
  apply step _ hfg
  intro a ha
  rw [h, ha]

theorem ite {c : Prop} [Decidable c] {x₁ x₂ : Except ε α} {y₁ y₂ : Except ε α'}
    (h₁ : c → Follows R x₁ y₁) (h₂ : ¬c → Follows R x₂ y₂) :
    Follows R (if c then x₁ else x₂) (if c then y₁ else y₂) := by
  by_cases h : c
  · rw [if_pos h, if_pos h]
    exact h₁ h
  · rw [if_neg h, if_neg h]
    exact h₂ h

theorem mapM {γ γ' : Type} {T : γ → γ' → Prop} {f : γ → Except ε α} {g : γ' → Except ε α'}
    {xs : List γ} {ys : List γ'} (h : List.Forall₂ T xs ys)
    (hfg : ∀ x y, T x y → Follows R (f x) (g y)) :
    Follows (List.Forall₂ R) (xs.mapM f) (ys.mapM g) := by
  induction h with
  | nil => exact ok .nil
  | cons hxy _ ih =>
    rw [List.mapM_cons, List.mapM_cons]
    apply bind (hfg _ _ hxy)
    intro a b _ hab
    apply bind ih
    intro as bs _ habs
    exact ok (.cons hab habs)

end

theorem lift {α α' : Type} {R : α → α' → Prop} {x : Except Misuse α} {y : Except Misuse α'}
    (h : Follows R x y) : Follows R (liftM x : Except Failure α) (liftM y : Except Failure α') := by
  intro a ha
  obtain ⟨b, hb, hab⟩ := h a (lift_eq_ok.mp ha)
  exact ⟨b, lift_eq_ok.mpr hb, hab⟩

end Follows

end NetFootprint
