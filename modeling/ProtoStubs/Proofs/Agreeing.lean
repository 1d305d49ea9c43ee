import ProtoStubs.Proofs.Success

/-!
# Two runs side by side

Two computations agree up to a relation if both fail, or both give results that are related. Compositions
agree if their parts do.
-/

namespace ProtoStubs

variable {ε α β γ δ : Type} {R : α → β → Prop} {S : γ → δ → Prop}

inductive Agree (R : α → β → Prop) : Except ε α → Except ε β → Prop
  | ok {a : α} {b : β} (h : R a b) : Agree R (.ok a) (.ok b)
  | error (e e' : ε) : Agree R (.error e) (.error e')

theorem agree_pure {a : α} {b : β} (h : R a b) : Agree R (pure a : Except ε α) (pure b) := .ok h

theorem Agree.refl {R : α → α → Prop} (h : ∀ a, R a a) (x : Except ε α) : Agree R x x := by
  cases x with
  | error e => exact .error e e
  | ok a => exact .ok (h a)

theorem Agree.imp {Q : α → β → Prop} {x : Except ε α} {y : Except ε β} (hxy : Agree R x y)
    (h : ∀ a b, x = .ok a → y = .ok b → R a b → Q a b) : Agree Q x y := by
  cases hxy with
  | ok hab => exact .ok (h _ _ rfl rfl hab)
  | error e e' => exact .error e e'

theorem Agree.bind {x : Except ε α} {y : Except ε β} {f : α → Except ε γ} {g : β → Except ε δ}
    (hxy : Agree R x y) (hfg : ∀ a b, R a b → Agree S (f a) (g b)) : Agree S (x >>= f) (y >>= g) := by
  cases hxy with
  | ok h => exact hfg _ _ h
  | error e e' => exact .error e e'

theorem Agree.bind_pure {x : Except ε α} {y : Except ε β} {f : α → γ} {g : β → δ} (hxy : Agree R x y)
    (hfg : ∀ a b, R a b → S (f a) (g b)) :
    Agree S (do return f (← x)) (do return g (← y)) :=
  hxy.bind fun a b hab => agree_pure (hfg a b hab)

theorem Agree.mapM {ι κ : Type} {xs : List ι} {ys : List κ} {f : ι → Except ε α}
    {g : κ → Except ε β} (h : List.Forall₂ (fun x y => Agree R (f x) (g y)) xs ys) :
    Agree (List.Forall₂ R) (xs.mapM f) (ys.mapM g) := by
  induction h with
  | nil => exact agree_pure .nil
  | cons hxy _ ih =>
    rw [List.mapM_cons, List.mapM_cons]
    exact hxy.bind fun a b hab => ih.bind_pure fun as bs habs => .cons hab habs

theorem Agree.mapM_map {ι κ : Type} {xs : List ι} {f : ι → Except ε α} {g : κ → Except ε β}
    {k : ι → κ} {r : α → β} (h : ∀ x ∈ xs, Agree (fun a b => b = r a) (f x) (g (k x))) :
    Agree (fun as bs => bs = as.map r) (xs.mapM f) ((xs.map k).mapM g) := by
  have hall : List.Forall₂ (fun x y => Agree (fun a b => b = r a) (f x) (g y)) xs (xs.map k) := by
    rw [List.forall₂_map_right_iff]
    exact List.forall₂_same.mpr h
  refine (Agree.mapM hall).imp fun as bs _ _ habs => ?_
  simpa using map_related habs (g := id) fun _ _ _ hab => hab

theorem agree_require {e e' : GenerationError} {o : Option α} {o' : Option β}
    (h : Option.Rel R o o') : Agree R (require e o) (require e' o') := by
  cases h with
  | none => exact .error e e'
  | some hab => exact .ok hab

end ProtoStubs
