/-!
# Steps from related states

Two runs with a state and errors mirror each other if they come to the same from related states: to
equal values or to equal errors, and to related states after (`Mirrors`). Each kind of step has its
rule, so that runs mirror each other if their parts do.
-/

namespace Folio

variable {ε σ α β γ : Type} {R : σ → σ → Prop}

/-- Equal outcomes with related states. -/
inductive Mirrored (R : σ → σ → Prop) : EStateM.Result ε σ α → EStateM.Result ε σ α → Prop
  | ok (a : α) {s t : σ} (related : R s t) : Mirrored R (.ok a s) (.ok a t)
  | error (e : ε) {s t : σ} (related : R s t) : Mirrored R (.error e s) (.error e t)

/-- Whether two runs come to the same from related states. -/
def Mirrors (R : σ → σ → Prop) (x y : EStateM ε σ α) : Prop :=
  ∀ s t, R s t → Mirrored R (x s) (y t)

namespace Mirrors

variable {x y : EStateM ε σ α}

theorem ok (mirrors : Mirrors R x y) {s t s' t' : σ} {a b : α} (related : R s t)
    (ran : x s = .ok a s') (ran' : y t = .ok b t') : a = b ∧ R s' t' := by
  have mirrored := mirrors s t related
  rw [ran, ran'] at mirrored
  cases mirrored with
  | ok _ related => exact ⟨rfl, related⟩

theorem pure (a : α) : Mirrors R (pure a : EStateM ε σ α) (Pure.pure a) :=
  fun _ _ related => .ok a related

theorem throw (e : ε) : Mirrors R (throw e : EStateM ε σ α) (throw e) :=
  fun _ _ related => .error e related

theorem bind {f g : α → EStateM ε σ β} (first : Mirrors R x y)
    (second : ∀ a, Mirrors R (f a) (g a)) : Mirrors R (x >>= f) (y >>= g) := by
  intro s t related
  change Mirrored R (EStateM.bind x f s) (EStateM.bind y g t)
  unfold EStateM.bind
  have mirrored := first s t related
  revert mirrored
  generalize x s = one
  generalize y t = other
  rintro ⟨⟩
  · next a _ _ related => exact second a _ _ related
  · next e _ _ related => exact .error e related

theorem get_bind {f g : σ → EStateM ε σ β}
    (next : ∀ s t, R s t → Mirrors R (f s) (g t)) : Mirrors R (get >>= f) (get >>= g) :=
  fun s t related => next s t related s t related

theorem modify {f g : σ → σ} (related : ∀ s t, R s t → R (f s) (g t)) :
    Mirrors R (modify f : EStateM ε σ Unit) (modify g) :=
  fun s t start => .ok () (related s t start)

theorem forM {f : γ → EStateM ε σ PUnit} {items : List γ}
    (each : ∀ item, Mirrors R (f item) (f item)) : Mirrors R (items.forM f) (items.forM f) := by
  induction items with
  | nil => exact pure _
  | cons item rest ih => exact (each item).bind fun _ => ih

theorem foldlM {f : β → γ → EStateM ε σ β} {items : List γ}
    (each : ∀ b item, Mirrors R (f b item) (f b item)) (b : β) :
    Mirrors R (items.foldlM f b) (items.foldlM f b) := by
  induction items generalizing b with
  | nil => exact pure b
  | cons item rest ih => exact (each b item).bind fun b => ih b

end Mirrors

end Folio
