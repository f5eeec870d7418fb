/-!
# Invariants of steps that may fail

Steps with a state and errors keep an invariant if it holds of whatever state they leave, be it with
a value or with an error (`Keeps`). Each kind of step has its rule, so that a run keeps what its
parts keep.
-/

namespace Folio

variable {ε σ α β : Type} {I : σ → Prop} {E E' : ε → σ → Prop} {Q Q' : α → Prop}

/-- Whether steps keep an invariant, give values of some kind and fail only in some ways. -/
def Keeps (I : σ → Prop) (E : ε → σ → Prop) (Q : α → Prop) (x : EStateM ε σ α) : Prop :=
  ∀ s, I s →
    match x s with
    | .ok a t => I t ∧ Q a
    | .error e t => I t ∧ E e t

namespace Keeps

variable {x : EStateM ε σ α}

theorem ok (keeps : Keeps I E Q x) {s t : σ} {a : α} (start : I s) (ran : x s = .ok a t) :
    I t ∧ Q a := by
  have kept := keeps s start
  rwa [ran] at kept

theorem error (keeps : Keeps I E Q x) {s t : σ} {e : ε} (start : I s) (ran : x s = .error e t) :
    I t ∧ E e t := by
  have kept := keeps s start
  rwa [ran] at kept

theorem intro (ok : ∀ s a t, I s → x s = .ok a t → I t ∧ Q a)
    (error : ∀ s e t, I s → x s = .error e t → I t ∧ E e t) : Keeps I E Q x := by
  intro s start
  split
  · next a t ran => exact ok s a t start ran
  · next e t ran => exact error s e t start ran

theorem mono (keeps : Keeps I E Q x) (values : ∀ a, Q a → Q' a) : Keeps I E Q' x :=
  .intro (fun _ a _ start ran => (keeps.ok start ran).imp_right (values a))
    fun _ _ _ start ran => keeps.error start ran

theorem pure {a : α} (value : Q a) : Keeps I E Q (pure a) :=
  fun _ start => ⟨start, value⟩

theorem throw {e : ε} (allowed : ∀ s, I s → E e s) : Keeps I E Q (throw e : EStateM ε σ α) :=
  fun s start => ⟨start, allowed s start⟩

theorem bind {R : β → Prop} {f : α → EStateM ε σ β} (first : Keeps I E Q x)
    (second : ∀ a, Q a → Keeps I E R (f a)) : Keeps I E R (x >>= f) := by
  intro s start
  change match EStateM.bind x f s with
    | .ok b t => I t ∧ R b
    | .error e t => I t ∧ E e t
  unfold EStateM.bind
  cases ran : x s with
  | ok a t =>
    obtain ⟨kept, value⟩ := first.ok start ran
    exact second a value t kept
  | error e t => exact first.error start ran

theorem get_bind {R : β → Prop} {f : σ → EStateM ε σ β} (next : ∀ s, I s → Keeps I E R (f s)) :
    Keeps I E R (get >>= f) :=
  fun s start => next s start s start

theorem get_if {R : β → Prop} {test : σ → Bool} {e : ε} {f : σ → EStateM ε σ β}
    (stop : ∀ s, I s → test s = true → E e s) (go : ∀ s, I s → test s = false → Keeps I E R (f s)) :
    Keeps I E R (do
      let s ← get
      if test s then MonadExcept.throw e
      f s) := by
  intro s start
  change match (if test s = true then (MonadExcept.throw e >>= fun _ => f s) else f s :
      EStateM ε σ β) s with
    | .ok b t => I t ∧ R b
    | .error e t => I t ∧ E e t
  by_cases stops : test s = true
  · rw [if_pos stops]
    exact ⟨start, stop s start stops⟩
  · rw [if_neg stops]
    exact go s start (Bool.eq_false_iff.2 stops) s start

theorem modify {f : σ → σ} (kept : ∀ s, I s → I (f s)) :
    Keeps I E (fun _ => True) (modify f : EStateM ε σ Unit) :=
  fun s start => ⟨kept s start, trivial⟩

theorem forM {γ : Type} {f : γ → EStateM ε σ PUnit} {items : List γ}
    (each : ∀ item ∈ items, Keeps I E (fun _ => True) (f item)) :
    Keeps I E (fun _ => True) (items.forM f) := by
  induction items with
  | nil => exact pure trivial
  | cons item rest ih =>
    refine (each item (List.mem_cons_self ..)).bind fun _ _ => ih fun other member => ?_
    exact each other (List.mem_cons_of_mem _ member)

theorem foldlM {γ : Type} {R : β → Prop} {f : β → γ → EStateM ε σ β} {items : List γ} {b : β}
    (start : R b) (each : ∀ b item, R b → item ∈ items → Keeps I E R (f b item)) :
    Keeps I E R (items.foldlM f b) := by
  induction items generalizing b with
  | nil => exact pure start
  | cons item rest ih =>
    refine (each b item start (List.mem_cons_self ..)).bind fun b value => ih value ?_
    exact fun b other value member => each b other value (List.mem_cons_of_mem _ member)

theorem mapM {γ : Type} {R : β → Prop} {f : γ → EStateM ε σ β} {items : List γ}
    (each : ∀ item ∈ items, Keeps I E R (f item)) :
    Keeps I E (fun values => ∀ b ∈ values, R b) (items.mapM f) := by
  induction items with
  | nil => exact pure fun _ member => nomatch member
  | cons item rest ih =>
    rw [List.mapM_cons]
    refine (each item (List.mem_cons_self ..)).bind fun b value => ?_
    refine (ih fun other member => each other (List.mem_cons_of_mem _ member)).bind fun bs values => ?_
    exact pure fun other member => (List.mem_cons.1 member).elim (fun same => same ▸ value) (values other)

end Keeps

end Folio
