import Mathlib.Data.List.Forall2
import ProtoStubs.Error

/-!
# When a computation that can fail succeeds

A composition succeeds exactly if each of its parts does. A list is run through from its first element,
and its results stand in the order of the elements.
-/

namespace ProtoStubs

variable {ε α β : Type}

def Succeeds (x : Except ε α) : Prop := ∃ a, x = .ok a

instance (x : Except ε α) : Decidable (Succeeds x) :=
  match x with
  | .ok a => isTrue ⟨a, rfl⟩
  | .error _ => isFalse fun h => Exists.elim h fun _ ha => nomatch ha

theorem succeeds_ok (a : α) : Succeeds (.ok a : Except ε α) := ⟨a, rfl⟩

theorem not_succeeds_error (e : ε) : ¬ Succeeds (.error e : Except ε α) := by
  intro h
  obtain ⟨a, h⟩ := h
  cases h

theorem bind_eq_ok {x : Except ε α} {f : α → Except ε β} {b : β} :
    (x >>= f) = .ok b ↔ ∃ a, x = .ok a ∧ f a = .ok b := by
  cases x with
  | error e => simp [bind, Except.bind]
  | ok a => simp [bind, Except.bind]

theorem bind_eq_error {x : Except ε α} {f : α → Except ε β} {e : ε} :
    (x >>= f) = .error e ↔ x = .error e ∨ ∃ a, x = .ok a ∧ f a = .error e := by
  cases x with
  | error e' => simp [bind, Except.bind]
  | ok a => simp [bind, Except.bind]

theorem bind_pure_eq_error {x : Except ε α} {f : α → β} {e : ε} :
    (do return f (← x)) = Except.error e ↔ x = .error e := by
  cases x <;> simp [bind, Except.bind, pure, Except.pure]

theorem pure_eq_ok {a b : α} : (pure a : Except ε α) = .ok b ↔ a = b := by
  simp [pure, Except.pure]

theorem succeeds_pure (a : α) : Succeeds (pure a : Except ε α) := ⟨a, rfl⟩

theorem succeeds_bind {x : Except ε α} {f : α → Except ε β} :
    Succeeds (x >>= f) ↔ ∃ a, x = .ok a ∧ Succeeds (f a) := by
  constructor
  · intro h
    obtain ⟨b, hb⟩ := h
    obtain ⟨a, ha, hf⟩ := bind_eq_ok.mp hb
    exact ⟨a, ha, b, hf⟩
  · intro h
    obtain ⟨a, ha, b, hf⟩ := h
    exact ⟨b, bind_eq_ok.mpr ⟨a, ha, hf⟩⟩

theorem succeeds_bind_of_total {x : Except ε α} {f : α → Except ε β} (hf : ∀ a, Succeeds (f a)) :
    Succeeds (x >>= f) ↔ Succeeds x := by
  rw [succeeds_bind]
  exact ⟨fun ⟨a, ha, _⟩ => ⟨a, ha⟩, fun ⟨a, ha⟩ => ⟨a, ha, hf a⟩⟩

theorem succeeds_bind_of_const {x : Except ε α} {f : α → Except ε β} {p : Prop}
    (hf : ∀ a, Succeeds (f a) ↔ p) : Succeeds (x >>= f) ↔ Succeeds x ∧ p := by
  rw [succeeds_bind]
  constructor
  · intro h
    obtain ⟨a, ha, h⟩ := h
    exact ⟨⟨a, ha⟩, (hf a).mp h⟩
  · intro h
    obtain ⟨⟨a, ha⟩, h⟩ := h
    exact ⟨a, ha, (hf a).mpr h⟩

theorem mapM_eq_ok {f : α → Except ε β} {xs : List α} {ys : List β} :
    xs.mapM f = .ok ys ↔ List.Forall₂ (fun x y => f x = .ok y) xs ys := by
  induction xs generalizing ys with
  | nil =>
    rw [List.mapM_nil, pure_eq_ok, List.forall₂_nil_left_iff]
    exact eq_comm
  | cons x xs ih =>
    simp only [List.mapM_cons, bind_eq_ok, pure_eq_ok, List.forall₂_cons_left_iff, ih]
    constructor
    · intro h
      obtain ⟨y, hy, zs, hzs, rfl⟩ := h
      exact ⟨y, zs, hy, hzs, rfl⟩
    · intro h
      obtain ⟨y, zs, hy, hzs, rfl⟩ := h
      exact ⟨y, hy, zs, hzs, rfl⟩

theorem succeeds_mapM {f : α → Except ε β} {xs : List α} :
    Succeeds (xs.mapM f) ↔ ∀ x ∈ xs, Succeeds (f x) := by
  induction xs with
  | nil => simp [succeeds_pure]
  | cons x xs ih =>
    rw [List.mapM_cons, List.forall_mem_cons, ← ih]
    apply succeeds_bind_of_const
    intro y
    exact succeeds_bind_of_total fun ys => succeeds_pure _

section Results

variable {R : α → β → Prop} {f : α → Except ε β} {xs : List α} {ys : List β}

theorem exists_related (h : List.Forall₂ R xs ys) {x : α} (hx : x ∈ xs) : ∃ y ∈ ys, R x y := by
  induction h with
  | nil => cases hx
  | cons hab _ ih =>
    rcases List.mem_cons.mp hx with rfl | hx
    · exact ⟨_, List.mem_cons_self, hab⟩
    · obtain ⟨y, hy, hxy⟩ := ih hx
      exact ⟨y, List.mem_cons_of_mem _ hy, hxy⟩

theorem mem_results (h : List.Forall₂ (fun x y => f x = .ok y) xs ys) {y : β} :
    y ∈ ys ↔ ∃ x ∈ xs, f x = .ok y := by
  induction h with
  | nil => simp
  | cons hab _ ih =>
    simp only [List.mem_cons, exists_eq_or_imp, hab, ih, Except.ok.injEq]
    exact or_congr eq_comm Iff.rfl

theorem related_of_results {Q : α → β → Prop} (h : List.Forall₂ (fun x y => f x = .ok y) xs ys)
    (hQ : ∀ x ∈ xs, ∀ y, f x = .ok y → Q x y) : List.Forall₂ Q xs ys := by
  induction h with
  | nil => exact .nil
  | cons hxy _ ih =>
    exact .cons (hQ _ List.mem_cons_self _ hxy) (ih fun x hx => hQ x (List.mem_cons_of_mem _ hx))

theorem forall_results_iff (h : List.Forall₂ (fun x y => f x = .ok y) xs ys) {p : α → Prop}
    {q : β → Prop} (hpq : ∀ x y, f x = .ok y → (q y ↔ p x)) :
    (∀ y ∈ ys, q y) ↔ ∀ x ∈ xs, p x := by
  constructor
  · intro hq x hx
    obtain ⟨y, hy, hxy⟩ := exists_related h hx
    exact (hpq x y hxy).mp (hq y hy)
  · intro hp y hy
    obtain ⟨x, hx, hxy⟩ := (mem_results h).mp hy
    exact (hpq x y hxy).mpr (hp x hx)

end Results

section Related

variable {R : α → β → Prop} {xs : List α} {ys : List β}

theorem related_map {g : α → β} (h : ∀ x, R x (g x)) (xs : List α) :
    List.Forall₂ R xs (xs.map g) := by
  rw [List.forall₂_map_right_iff]
  exact List.forall₂_same.mpr fun x _ => h x

theorem forall_related (h : List.Forall₂ R xs ys) {p : α → Prop} {q : β → Prop}
    (hpq : ∀ x y, R x y → p x → q y) (hp : ∀ x ∈ xs, p x) : ∀ y ∈ ys, q y := by
  induction h with
  | nil => exact List.forall_mem_nil q
  | cons hab _ ih =>
    rw [List.forall_mem_cons] at hp ⊢
    exact ⟨hpq _ _ hab hp.1, ih hp.2⟩

theorem map_related {γ : Type} (h : List.Forall₂ R xs ys) {g : β → γ} {k : α → γ}
    (hgk : ∀ x ∈ xs, ∀ y, R x y → g y = k x) : ys.map g = xs.map k := by
  induction h with
  | nil => rfl
  | cons hab _ ih =>
    rw [List.map_cons, List.map_cons, hgk _ List.mem_cons_self _ hab]
    exact congrArg _ (ih fun x hx => hgk x (List.mem_cons_of_mem _ hx))

theorem flatMap_related {γ : Type} (h : List.Forall₂ R xs ys) {g : β → List γ} {k : α → List γ}
    (hgk : ∀ x ∈ xs, ∀ y, R x y → g y = k x) : ys.flatMap g = xs.flatMap k := by
  induction h with
  | nil => rfl
  | cons hab _ ih =>
    rw [List.flatMap_cons, List.flatMap_cons, hgk _ List.mem_cons_self _ hab]
    exact congrArg _ (ih fun x hx => hgk x (List.mem_cons_of_mem _ hx))

theorem mapM_related {γ : Type} (h : List.Forall₂ R xs ys) {g : β → Except ε γ} {k : α → Except ε γ}
    (hgk : ∀ x ∈ xs, ∀ y, R x y → g y = k x) : ys.mapM g = xs.mapM k := by
  induction h with
  | nil => rfl
  | cons hab _ ih =>
    rw [List.mapM_cons, List.mapM_cons, hgk _ List.mem_cons_self _ hab,
      ih fun x hx => hgk x (List.mem_cons_of_mem _ hx)]

/-- The last element on the one side that passes a test belongs to the last one that passes the test of
the other side. -/
theorem getLast?_filter_related (h : List.Forall₂ R xs ys) {p : α → Bool} {q : β → Bool}
    (hpq : ∀ x y, R x y → q y = p x) :
    Option.Rel R (xs.filter p).getLast? (ys.filter q).getLast? := by
  have hfilter : List.Forall₂ R (xs.filter p) (ys.filter q) := by
    induction h with
    | nil => exact .nil
    | @cons a b as bs hab _ ih =>
      rw [List.filter_cons, List.filter_cons, hpq a b hab]
      cases p a with
      | true => exact .cons hab ih
      | false => exact ih
  have hreverse := List.forall₂_reverse_iff.mpr hfilter
  rw [List.getLast?_eq_head?_reverse, List.getLast?_eq_head?_reverse]
  generalize (xs.filter p).reverse = as at hreverse
  generalize (ys.filter q).reverse = bs at hreverse
  cases hreverse with
  | nil => exact .none
  | cons hab _ => exact .some hab

end Related

theorem require_eq_ok {e : GenerationError} {o : Option α} {a : α} :
    require e o = .ok a ↔ o = some a := by
  cases o <;> simp [require]

theorem require_eq_error {e e' : GenerationError} {o : Option α} :
    require e o = .error e' ↔ o = none ∧ e = e' := by
  cases o <;> simp [require]

theorem succeeds_require {e : GenerationError} {o : Option α} :
    Succeeds (require e o) ↔ ∃ a, o = some a := by
  simp only [Succeeds, require_eq_ok]

end ProtoStubs
