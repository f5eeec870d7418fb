import Folio.Proofs.Script.Cover
import Folio.Proofs.Script.Effect
import Mathlib.Data.List.Nodup

/-!
# Where nodes lie

The nodes of a script lie on its significant tokens, each on tokens of its own: a reference on one
name, a call on all from its name to its closing bracket (`parse_placed`). So nodes are disjoint and
`walk` lists them from the start of the source on.
-/

namespace Folio.Script

namespace Node

def call? : Node → Option Call
  | call c => some c
  | reference _ => none

def reference? : Node → Option Reference
  | call _ => none
  | reference r => some r

def calls (nodes : List Node) : List Call :=
  nodes.filterMap call?

def references (nodes : List Node) : List Reference :=
  nodes.filterMap reference?

@[simp] theorem calls_cons_call (c : Call) (nodes : List Node) :
    calls (call c :: nodes) = c :: calls nodes := rfl

@[simp] theorem calls_cons_reference (r : Reference) (nodes : List Node) :
    calls (reference r :: nodes) = calls nodes := rfl

@[simp] theorem references_cons_call (c : Call) (nodes : List Node) :
    references (call c :: nodes) = references nodes := rfl

@[simp] theorem references_cons_reference (r : Reference) (nodes : List Node) :
    references (reference r :: nodes) = r :: references nodes := rfl

theorem mem_references {nodes : List Node} {r : Reference} :
    r ∈ references nodes ↔ reference r ∈ nodes := by
  rw [references, List.mem_filterMap]
  constructor
  · rintro ⟨n, member, same⟩
    cases n with
    | call c => cases same
    | reference other =>
      cases same
      exact member
  · exact fun member => ⟨_, member, rfl⟩

/-- Nodes are their calls and their references, in some order. -/
theorem perm_calls_references (nodes : List Node) :
    nodes.Perm ((calls nodes).map call ++ (references nodes).map reference) := by
  induction nodes with
  | nil => exact List.Perm.nil
  | cons n nodes ih =>
    cases n with
    | call c => exact ih.cons (call c)
    | reference r => exact (ih.cons (reference r)).trans List.perm_middle.symm

end Node

/-! ## Calls -/

section Calls

variable {source : List Char} {t close : Token} {tokens rest inside : List Token} {call : Call}
  {depth taken : Nat}

theorem takeClosed_eq_some (found : takeClosed depth tokens = some (inside, close)) :
    close.closes = true ∧ ∃ later, tokens = inside ++ close :: later := by
  fun_induction takeClosed depth tokens generalizing inside with
  | case1 => cases found
  | case2 depth t r opens ih =>
    obtain ⟨⟨within, last⟩, taken, same⟩ := Option.map_eq_some_iff.1 found
    cases same
    obtain ⟨closes, later, rfl⟩ := ih taken
    exact ⟨closes, later, rfl⟩
  | case3 t r opens closes =>
    cases found
    exact ⟨closes, r, rfl⟩
  | case4 t r opens closes depth ih =>
    obtain ⟨⟨within, last⟩, taken, same⟩ := Option.map_eq_some_iff.1 found
    cases same
    obtain ⟨closes, later, rfl⟩ := ih taken
    exact ⟨closes, later, rfl⟩
  | case5 depth t r opens closes ih =>
    obtain ⟨⟨within, last⟩, taken, same⟩ := Option.map_eq_some_iff.1 found
    cases same
    obtain ⟨closes, later, rfl⟩ := ih taken
    exact ⟨closes, later, rfl⟩

/-- The tokens that a call takes: an opener, those inside and the closing bracket. -/
theorem callAt_eq_ok (found : callAt source t rest = .ok (call, taken)) :
    ∃ opener inside close arguments later, rest = opener :: inside ++ close :: later ∧
      taken = inside.length + 2 ∧ close.closes = true ∧
      splitArguments source 0 [] inside = .ok arguments ∧
      call = ⟨⟨t.text, t.start, false⟩, close.stop, arguments⟩ := by
  unfold callAt at found
  split at found
  · cases found
  · next opener rest =>
    split at found
    · cases found
    · next inside close closed =>
      obtain ⟨closes, later, rfl⟩ := takeClosed_eq_some closed
      split at found
      · cases found
      · next arguments split =>
        cases found
        exact ⟨opener, inside, close, arguments, later, rfl, rfl, closes, split, rfl⟩

end Calls

/-! ## Placement -/

/-- The configurations that the pass over some tokens comes to: a state, the token before and the
tokens to come. -/
inductive Reaches (source : List Char) (names : List String) (tokens : List Token) :
    State → Option Token → List Token → Prop
  | start : Reaches source names tokens State.initial none tokens
  | step {s s' : State} {previous : Option Token} {t : Token} {rest : List Token} {taken : Nat}
      (earlier : Reaches source names tokens s previous (t :: rest))
      (step : s.step source names previous t rest = .ok (s', taken)) :
      Reaches source names tokens s' (t :: rest)[taken]? (rest.drop taken)

/-- Nodes on some tokens, in the same order. `Site` holds of each token that is outside the calls or
begins one, of those that follow it and of the number of these that the call takes. -/
inductive Placed (source : List Char) (names : List String)
    (Site : Token → List Token → Nat → Prop) : List Node → List Token → Prop
  | nil : Placed source names Site [] []
  | pass {nodes : List Node} {tokens : List Token} (t : Token) (site : Site t tokens 0)
      (later : Placed source names Site nodes tokens) : Placed source names Site nodes (t :: tokens)
  | reference {nodes : List Node} {tokens : List Token} (t : Token) (shorthand : Bool)
      (plain : t.kind = .plainName) (simple : isSimpleName t.text = true)
      (follows : shorthand = true → textIn [",", "\x7d"] tokens.head? = true)
      (uncalled : t.text ∈ names → textIs "(" tokens.head? = false) (site : Site t tokens 0)
      (later : Placed source names Site nodes tokens) :
      Placed source names Site (.reference ⟨t.text, t.start, shorthand⟩ :: nodes) (t :: tokens)
  | call {nodes : List Node} {tokens inside : List Token} {arguments : List Argument}
      (t opener close : Token) (plain : t.kind = .plainName) (named : t.text ∈ names)
      (opens : opener.text = "(") (closes : close.closes = true)
      (split : splitArguments source 0 [] inside = .ok arguments)
      (site : Site t (opener :: inside ++ close :: tokens) (inside.length + 2))
      (later : Placed source names Site nodes tokens) :
      Placed source names Site (.call ⟨⟨t.text, t.start, false⟩, close.stop, arguments⟩ :: nodes)
        (t :: opener :: inside ++ close :: tokens)

namespace Placed

variable {source : List Char} {names : List String} {Site : Token → List Token → Nat → Prop}
  {nodes : List Node} {tokens : List Token}

/-- Some of the references alone are placed as well. -/
theorem of_sublist (placed : Placed source names Site nodes tokens) {references : List Reference}
    (sublist : references.Sublist (Node.references nodes)) :
    ∃ fewer, Placed source names Site fewer tokens ∧ Node.calls fewer = Node.calls nodes ∧
      Node.references fewer = references := by
  induction placed generalizing references with
  | nil => exact ⟨[], .nil, rfl, (List.sublist_nil.1 sublist).symm⟩
  | pass t site later ih =>
    obtain ⟨fewer, placed, calls, same⟩ := ih sublist
    exact ⟨fewer, .pass t site placed, calls, same⟩
  | reference t shorthand plain simple follows uncalled site later ih =>
    cases sublist with
    | cons _ sublist =>
      obtain ⟨fewer, placed, calls, same⟩ := ih sublist
      exact ⟨fewer, .pass t site placed, calls, same⟩
    | cons_cons _ sublist =>
      obtain ⟨fewer, placed, calls, rfl⟩ := ih sublist
      exact ⟨_, .reference t shorthand plain simple follows uncalled site placed, calls, rfl⟩
  | call t opener close plain named opens closes split site later ih =>
    obtain ⟨fewer, placed, calls, rfl⟩ := ih sublist
    exact ⟨_, .call t opener close plain named opens closes split site placed, by simp [calls], rfl⟩

theorem named (placed : Placed source names Site nodes tokens) :
    ∀ c ∈ Node.calls nodes, c.callee.name ∈ names := by
  induction placed with
  | nil => exact fun c member => (by cases member)
  | pass t site later ih => exact ih
  | reference t shorthand plain simple follows uncalled site later ih => exact ih
  | call t opener close plain named opens closes split site later ih =>
    intro c member
    rcases List.mem_cons.1 member with rfl | member
    · exact named
    · exact ih c member

end Placed

/-! ## The nodes of a run -/

/-- Each mark is a part of the references found since and of the marks of inner scopes. -/
def State.Marked (s : State) : Prop :=
  (s.references :: s.marks).Pairwise fun later earlier => earlier.Sublist later

theorem marked_initial : State.initial.Marked := by
  simp [State.Marked, State.marks, State.initial, Scope.opened]

theorem Effect.marked {source : List Char} {names : List String} {s s' : State} {t : Token}
    {rest : List Token} {taken : Nat} (effect : Effect source names s t rest s' taken)
    (marked : s.Marked) : s'.Marked := by
  unfold State.Marked at marked ⊢
  cases effect with
  | quiet same => rwa [same.2.1, same.2.2]
  | opened calls references marks =>
    rw [references, marks]
    refine List.pairwise_cons.2 ⟨?_, marked⟩
    intro mark member
    rcases List.mem_cons.1 member with rfl | member
    · exact List.Sublist.refl _
    · exact (List.pairwise_cons.1 marked).1 mark member
  | closed calls marks references =>
    rw [marks] at marked
    rcases references with references | references
    · rw [references]
      exact marked.sublist (List.Sublist.cons_cons _ (List.sublist_cons_self _ _))
    · rw [references]
      exact (List.pairwise_cons.1 marked).2
  | reported shorthand plain simple follows uncalled calls references marks =>
    rw [references, marks]
    obtain ⟨below, marked⟩ := List.pairwise_cons.1 marked
    exact List.pairwise_cons.2 ⟨fun mark member => (below mark member).cons _, marked⟩
  | called plain named opens found calls references marks => rwa [references, marks]

/-- Whether the pass over some tokens comes to a token and takes so many of the next ones with it. -/
def Visited (source : List Char) (names : List String) (tokens : List Token) (t : Token)
    (rest : List Token) (taken : Nat) : Prop :=
  ∃ s previous s', Reaches source names tokens s previous (t :: rest) ∧
    s.step source names previous t rest = .ok (s', taken)

section Run

variable {source : List Char} {names : List String}

theorem run_nil_eq_ok {s f : State} {previous : Option Token}
    (ran : s.run source names previous [] = .ok f) : s.outer = [] ∧ f = s := by
  rw [State.run] at ran
  split at ran
  · next closed => exact ⟨closed, (Except.ok.inj ran).symm⟩
  · cases ran

theorem run_cons_eq_ok {s f : State} {previous : Option Token} {t : Token} {rest : List Token}
    (ran : s.run source names previous (t :: rest) = .ok f) :
    ∃ s' taken, s.step source names previous t rest = .ok (s', taken) ∧
      s'.run source names (t :: rest)[taken]? (rest.drop taken) = .ok f := by
  rw [State.run] at ran
  split at ran
  · cases ran
  · next s' taken step => exact ⟨s', taken, step, ran⟩

/-- A run finds nodes that are placed on its tokens, and keeps all calls and some references. -/
theorem run_placed {tokens toCome : List Token} {s f : State} {previous : Option Token}
    (reaches : Reaches source names tokens s previous toCome) (marked : s.Marked)
    (ran : s.run source names previous toCome = .ok f) :
    ∃ nodes, Placed source names (Visited source names tokens) nodes toCome ∧
      f.calls = (Node.calls nodes).reverse ++ s.calls ∧
      f.references.Sublist ((Node.references nodes).reverse ++ s.references) := by
  induction length : toCome.length using Nat.strongRecOn generalizing s previous toCome with
  | ind n ih =>
  cases toCome with
  | nil =>
    obtain ⟨-, rfl⟩ := run_nil_eq_ok ran
    exact ⟨[], .nil, rfl, List.Sublist.refl _⟩
  | cons t rest =>
    obtain ⟨s', taken, step, ran⟩ := run_cons_eq_ok ran
    have effect := step_effect step
    have shorter : (rest.drop taken).length < n := by
      rw [← length, List.length_drop, List.length_cons]
      omega
    obtain ⟨nodes, placed, calls, references⟩ :=
      ih _ shorter (reaches.step step) (effect.marked marked) ran rfl
    have visited : Visited source names tokens t rest taken := ⟨s, previous, s', reaches, step⟩
    cases effect with
    | quiet same =>
      rw [same.1] at calls
      rw [same.2.1] at references
      exact ⟨nodes, .pass t visited placed, calls, references⟩
    | opened same same' marks =>
      rw [same] at calls
      rw [same'] at references
      exact ⟨nodes, .pass t visited placed, calls, references⟩
    | closed same marks fewer =>
      rw [same] at calls
      have sublist : s'.references.Sublist s.references := by
        rcases fewer with fewer | fewer
        · exact fewer ▸ List.Sublist.refl _
        · rw [fewer]
          exact (List.pairwise_cons.1 marked).1 _ (by simp [marks])
      exact ⟨nodes, .pass t visited placed, calls,
        references.trans (List.Sublist.append_left sublist _)⟩
    | reported shorthand plain simple follows uncalled same more marks =>
      rw [same] at calls
      rw [more] at references
      exact ⟨_, .reference t shorthand plain simple follows uncalled visited placed,
        by simpa using calls, by simpa using references⟩
    | called plain named opens found more same marks =>
      obtain ⟨opener, inside, close, arguments, later, rfl, rfl, closes, args, rfl⟩ :=
        callAt_eq_ok found
      have opens : opener.text = "(" := by simpa [textIs] using opens
      have past : (opener :: inside ++ close :: later).drop (inside.length + 2) = later := by
        simp [List.drop_append]
      rw [past] at placed
      rw [more] at calls
      rw [same] at references
      refine ⟨.call ⟨⟨t.text, t.start, false⟩, close.stop, arguments⟩ :: nodes, ?_,
        by simpa using calls, by simpa using references⟩
      exact .call t opener close plain named opens closes args visited placed

/-- The nodes of a script lie on its significant tokens in some order. -/
theorem parse_nodes_placed {tree : Tree} (parsed : parse names source = .ok tree) :
    tree.source = source ∧ ∃ tokens nodes, scan source = .ok tokens ∧
      Placed source names (Visited source names (significant tokens)) nodes (significant tokens) ∧
      Node.calls nodes = tree.calls ∧ Node.references nodes = tree.references := by
  unfold parse at parsed
  split at parsed
  · cases parsed
  · next tokens scanned =>
    split at parsed
    · cases parsed
    · next f ran =>
      cases parsed
      obtain ⟨nodes, placed, calls, references⟩ := run_placed .start marked_initial ran
      have kept : f.references.reverse.Sublist (Node.references nodes) := by
        simpa [State.initial] using references.reverse
      obtain ⟨fewer, placed, same, exact⟩ := placed.of_sublist kept
      refine ⟨rfl, tokens, fewer, scanned, placed, ?_, exact⟩
      rw [same, calls]
      simp [State.initial]

end Run

/-! ## Order -/

/-- Nodes that follow each other without overlap between two offsets. -/
def Node.Separate (low : Nat) (nodes : List Node) (high : Nat) : Prop :=
  match nodes with
  | [] => low ≤ high
  | n :: nodes => low ≤ n.start ∧ n.start < n.stop ∧ Node.Separate n.stop nodes high

theorem Node.Separate.mono {low low' high : Nat} {nodes : List Node}
    (separate : Node.Separate low nodes high) (le : low' ≤ low) : Node.Separate low' nodes high := by
  cases nodes with
  | nil => exact Nat.le_trans le separate
  | cons n nodes => exact ⟨Nat.le_trans le separate.1, separate.2⟩

/-- Separate nodes are pairwise apart, the earlier one first. -/
theorem Node.Separate.pairwise {low high : Nat} {nodes : List Node}
    (separate : Node.Separate low nodes high) :
    (∀ n ∈ nodes, low ≤ n.start ∧ n.start < n.stop ∧ n.stop ≤ high) ∧
      nodes.Pairwise fun a b => a.stop ≤ b.start := by
  induction nodes generalizing low with
  | nil => exact ⟨fun n member => (by cases member), List.Pairwise.nil⟩
  | cons n nodes ih =>
    obtain ⟨start, some, later⟩ := separate
    obtain ⟨bounds, pairwise⟩ := ih later
    refine ⟨?_, List.pairwise_cons.2 ⟨fun m member => (bounds m member).1, pairwise⟩⟩
    intro m member
    rcases List.mem_cons.1 member with rfl | member
    · refine ⟨start, some, ?_⟩
      cases nodes with
      | nil => exact later
      | cons next nodes =>
        have := bounds next (by simp)
        omega
    · have := bounds m member
      omega

theorem Placed.separate {source : List Char} {names : List String}
    {Site : Token → List Token → Nat → Prop} {nodes : List Node} {tokens : List Token} {low high : Nat}
    (placed : Placed source names Site nodes tokens) (ascending : Ascending low tokens high) :
    Node.Separate low nodes high := by
  induction placed generalizing low with
  | nil => exact ascending
  | pass t site later ih =>
    obtain ⟨start, some, ascending⟩ := ascending
    exact (ih ascending).mono (by omega)
  | reference t shorthand plain simple follows uncalled site later ih =>
    obtain ⟨start, some, ascending⟩ := ascending
    exact ⟨start, some, ih ascending⟩
  | call t opener close plain named opens closes split site later ih =>
    obtain ⟨start, some, ascending⟩ := ascending
    obtain ⟨start', some', ascending'⟩ := ascending.of_append
    refine ⟨start, ?_, ih ascending'⟩
    change t.start < close.stop
    omega

/-- Separate nodes are what `walk` makes of their calls and references. -/
theorem Node.Separate.walk_eq {low high : Nat} {nodes : List Node}
    (separate : Node.Separate low nodes high) :
    Node.walk (Node.calls nodes) (Node.references nodes) = nodes := by
  obtain ⟨bounds, pairwise⟩ := separate.pairwise
  have perm : (Node.walk (Node.calls nodes) (Node.references nodes)).Perm nodes :=
    (List.mergeSort_perm _ _).trans (Node.perm_calls_references nodes).symm
  have sorted : (Node.walk (Node.calls nodes) (Node.references nodes)).Pairwise
      fun a b => a.start ≤ b.start := by
    refine (List.pairwise_mergeSort (fun a b c => ?_) (fun a b => ?_) _).imp fun le => ?_
    · simp only [decide_eq_true_eq]
      omega
    · simp only [Bool.or_eq_true, decide_eq_true_eq]
      omega
    · exact of_decide_eq_true le
  have ascending : nodes.Pairwise fun a b => a.start < b.start := by
    refine pairwise.imp_of_mem ?_
    intro a b memberA memberB apart
    have := (bounds a memberA).2.1
    omega
  have nodup : (nodes.map Node.start).Nodup :=
    List.pairwise_map.2 (ascending.imp Nat.ne_of_lt)
  refine perm.eq_of_pairwise ?_ sorted (ascending.imp Nat.le_of_lt)
  intro a b memberA memberB le ge
  exact List.inj_on_of_nodup_map nodup (perm.subset memberA) memberB (Nat.le_antisymm le ge)

/-- `walk` lists the nodes of a script as they lie on its significant tokens. -/
theorem parse_placed {source : List Char} {names : List String} {tree : Tree}
    (parsed : parse names source = .ok tree) :
    tree.source = source ∧ Node.calls tree.walk = tree.calls ∧
      Node.references tree.walk = tree.references ∧
      Node.Separate 0 tree.walk source.length ∧ ∃ tokens, scan source = .ok tokens ∧
        Placed source names (Visited source names (significant tokens)) tree.walk
          (significant tokens) := by
  obtain ⟨same, tokens, nodes, scanned, placed, calls, references⟩ := parse_nodes_placed parsed
  have separate := placed.separate (significant_ascending scanned)
  have walk : tree.walk = nodes := by
    rw [Tree.walk, ← calls, ← references, separate.walk_eq]
  rw [walk]
  exact ⟨same, calls, references, separate, tokens, scanned, placed⟩

end Folio.Script
