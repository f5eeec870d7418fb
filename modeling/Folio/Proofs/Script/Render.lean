import Folio.Proofs.Script.Layered
import Mathlib.Data.List.Pairwise

/-!
# Rendering the outermost edits

The parts of a script are its references and calls and, in a call, the callee and the arguments.
Parts of two nodes are apart, those in one call too, and nothing lies in them, so edits of parts are
layered. A shorter edit begins with another only if they are those of a callee and of its call, and
the scan then gives up the call: `render_outermost` says that the outermost edits are rendered just
when no call is edited together with its callee.
-/

namespace Folio.Script

open Edit

/-! ## Arguments of a call -/

theorem Ascending.of_append_left {low high : Nat} {before : List Token} {t : Token}
    {after : List Token} (ascending : Ascending low (before ++ t :: after) high) :
    Ascending low before t.start := by
  induction before generalizing low with
  | nil => exact ascending.1
  | cons head before ih => exact ⟨ascending.1, ascending.2.1, ih ascending.2.2⟩

theorem Argument.bounds_ofTokens {source : List Char} {first : Token} {more : List Token}
    {low high : Nat} (ascending : Ascending low (first :: more) high) :
    low ≤ (ofTokens source first more).start ∧
      (ofTokens source first more).start < (ofTokens source first more).stop ∧
      (ofTokens source first more).stop ≤ high := by
  obtain ⟨start, some, later⟩ := ascending
  refine ⟨start, ?_⟩
  change first.start < ((first :: more).getLast?.getD first).stop ∧ _ ≤ high
  rcases List.eq_nil_or_concat more with rfl | ⟨front, last, rfl⟩
  · exact ⟨some, later.le⟩
  · rw [List.concat_eq_append] at later
    obtain ⟨le, some', after⟩ := later.of_append
    have final : (first :: (front ++ [last])).getLast?.getD first = last := by
      rw [← List.cons_append, List.getLast?_concat]
      rfl
    have stop : (ofTokens source first (front ++ [last])).stop = last.stop :=
      congrArg Token.stop final
    rw [List.concat_eq_append, final, stop]
    exact ⟨by omega, after⟩

/-- The arguments between some tokens follow each other. -/
theorem bounds_of_splitArguments {source : List Char} {depth : Nat} {group tokens : List Token}
    {arguments : List Argument} {low high : Nat}
    (split : splitArguments source depth group tokens = .ok arguments)
    (ascending : Ascending low (group.reverse ++ tokens) high) :
    (∀ a ∈ arguments, low ≤ a.start ∧ a.start < a.stop ∧ a.stop ≤ high) ∧
      arguments.Pairwise fun a b => a.stop ≤ b.start := by
  fun_induction splitArguments source depth group tokens generalizing arguments low with
  | case1 depth group none =>
    cases split
    exact ⟨nofun, List.Pairwise.nil⟩
  | case2 depth group first more spelled =>
    cases split
    rw [spelled, List.append_nil] at ascending
    exact ⟨List.forall_mem_singleton.2 (Argument.bounds_ofTokens ascending),
      List.pairwise_singleton _ _⟩
  | case3 => cases split
  | case4 depth group t r deeper comma first more spelled =>
    rename_i ih
    obtain ⟨others, splitRest, rfl⟩ := map_ok split
    rw [spelled] at ascending
    obtain ⟨le, some, later⟩ := ascending.of_append
    have own := @Argument.bounds_ofTokens source _ _ _ _ ascending.of_append_left
    obtain ⟨bounds, pairwise⟩ := ih splitRest later
    have := later.le
    refine ⟨List.forall_mem_cons.2 ⟨⟨own.1, own.2.1, by omega⟩, fun a member => ?_⟩,
      List.pairwise_cons.2 ⟨fun a member => ?_, pairwise⟩⟩
    · have := bounds a member
      exact ⟨by omega, this.2⟩
    · have := bounds a member
      omega
  | case5 depth group t r deeper other =>
    rename_i ih
    exact ih split (by simpa using ascending)

/-- Whether the callee and the arguments of a call follow each other in it. -/
structure Call.Laid (c : Call) : Prop where
  callee : c.start < c.callee.stop ∧ c.callee.stop < c.stop
  bounds : ∀ a ∈ c.arguments, c.callee.stop ≤ a.start ∧ a.start < a.stop ∧ a.stop < c.stop
  apart : c.arguments.Pairwise fun a b => a.stop ≤ b.start

theorem Placed.laid {source : List Char} {names : List String}
    {Site : Token → List Token → Nat → Prop} {nodes : List Node} {tokens : List Token}
    {low high : Nat} (placed : Placed source names Site nodes tokens)
    (ascending : Ascending low tokens high) : ∀ c ∈ Node.calls nodes, c.Laid := by
  induction placed generalizing low with
  | nil => exact nofun
  | pass t site later ih => exact ih ascending.2.2
  | reference t shorthand plain simple follows uncalled site later ih => exact ih ascending.2.2
  | call t opener close plain named opens closes split site later ih =>
    rename_i inside arguments
    obtain ⟨-, some, opening⟩ := ascending
    obtain ⟨start, some', closing⟩ := opening
    obtain ⟨le, some'', after⟩ := closing.of_append
    obtain ⟨bounds, pairwise⟩ := bounds_of_splitArguments split closing.of_append_left
    have middle := closing.of_append_left.le
    refine List.forall_mem_cons.2 ⟨⟨⟨some, ?_⟩, fun a member => ?_, pairwise⟩, ih after⟩
    · change t.stop < close.stop
      omega
    · have := bounds a member
      change t.stop ≤ a.start ∧ a.start < a.stop ∧ a.stop < close.stop
      omega

/-! ## Parts of a script -/

theorem or_of_pairwise {α : Type} {R : α → α → Prop} {xs : List α} (pairwise : xs.Pairwise R)
    {a b : α} (member : a ∈ xs) (member' : b ∈ xs) (other : a ≠ b) : R a b ∨ R b a := by
  have : Std.Symm fun a b => R a b ∨ R b a := ⟨fun _ _ => Or.symm⟩
  exact (pairwise.imp (S := fun a b => R a b ∨ R b a) Or.inl).forall member member' other

/-- What can be given a new text. -/
inductive Part
  | reference (r : Reference)
  | call (c : Call)
  | callee (c : Call)
  | argument (c : Call) (a : Argument)
  /-- The literal that an argument is. -/
  | literal (c : Call) (a : Argument)

/-- Whether a part is one of a script. -/
inductive Tree.HasPart (tree : Tree) : Part → Prop
  | reference {r : Reference} (member : r ∈ tree.references) : tree.HasPart (.reference r)
  | call {c : Call} (member : c ∈ tree.calls) : tree.HasPart (.call c)
  | callee {c : Call} (member : c ∈ tree.calls) : tree.HasPart (.callee c)
  | argument {c : Call} {a : Argument} (member : c ∈ tree.calls) (own : a ∈ c.arguments) :
      tree.HasPart (.argument c a)
  | literal {c : Call} {a : Argument} (member : c ∈ tree.calls) (own : a ∈ c.arguments)
      (plain : a.literal.isSome = true) : tree.HasPart (.literal c a)

namespace Part

/-- The edit that gives a part a new text. -/
def edit (p : Part) (text : String) : Edit :=
  match p with
  | reference r => .ofReference r text
  | call c => .ofNode (.call c) text
  | callee c => .ofReference c.callee text
  | argument _ a => .ofArgument a text
  | literal _ a => .ofArgument a text

/-- The node that a part is or belongs to. -/
def node : Part → Node
  | reference r => .reference r
  | call c | callee c | argument c _ | literal c _ => .call c

def start : Part → Nat
  | reference r => r.start
  | call c => c.start
  | callee c => c.callee.start
  | argument _ a | literal _ a => a.start

def stop : Part → Nat
  | reference r => r.stop
  | call c => c.stop
  | callee c => c.callee.stop
  | argument _ a | literal _ a => a.stop

@[simp] theorem start_edit (p : Part) (text : String) : (p.edit text).start = p.start := by
  cases p <;> rfl

@[simp] theorem stop_edit (p : Part) (text : String) : (p.edit text).stop = p.stop := by
  cases p <;> rfl

/-- Whether a part lies in a call. -/
def IsInner (p : Part) : Prop :=
  p.node.start ≤ p.start ∧ p.stop < p.node.stop

/-- Whether a part is a whole node. -/
def IsWhole (p : Part) : Prop :=
  p.start = p.node.start ∧ p.stop = p.node.stop

end Part

/-- The parts of a call that lie in it, from the callee on. -/
def Call.inner (c : Call) : List (Nat × Nat) :=
  (c.callee.start, c.callee.stop) :: c.arguments.map fun a => (a.start, a.stop)

namespace Call.Laid

variable {c : Call}

theorem pairwise_inner (laid : c.Laid) : c.inner.Pairwise fun a b => a.2 ≤ b.1 := by
  refine List.pairwise_cons.2 ⟨fun range member => ?_, List.pairwise_map.2 laid.apart⟩
  obtain ⟨a, own, rfl⟩ := List.mem_map.1 member
  exact (laid.bounds a own).1

theorem bounds_inner (laid : c.Laid) :
    ∀ range ∈ c.inner, c.start ≤ range.1 ∧ range.1 < range.2 ∧ range.2 < c.stop := by
  obtain ⟨some, before⟩ := laid.callee
  refine List.forall_mem_cons.2 ⟨⟨Nat.le_refl _, some, before⟩, fun range member => ?_⟩
  obtain ⟨a, own, rfl⟩ := List.mem_map.1 member
  have := laid.bounds a own
  dsimp only
  omega

theorem apart_inner (laid : c.Laid) {range range' : Nat × Nat} (member : range ∈ c.inner)
    (member' : range' ∈ c.inner) :
    range = range' ∨ range.2 ≤ range'.1 ∨ range'.2 ≤ range.1 := by
  by_cases same : range = range'
  · exact Or.inl same
  · exact Or.inr (or_of_pairwise laid.pairwise_inner member member' same)

end Call.Laid

/-- A script whose nodes follow each other and whose calls are laid out. -/
structure Tree.Laid (tree : Tree) : Prop where
  separate : Node.Separate 0 tree.walk tree.source.length
  calls : ∀ c ∈ tree.calls, c.Laid

theorem parse_laid {names : List String} {source : List Char} {tree : Tree}
    (parsed : parse names source = .ok tree) : tree.Laid := by
  obtain ⟨same, calls, -, separate, tokens, scanned, placed⟩ := parse_placed parsed
  have laid := placed.laid (significant_ascending scanned)
  rw [calls] at laid
  exact ⟨same ▸ separate, laid⟩

namespace Tree.HasPart

variable {tree : Tree} {p q : Part}

theorem node_mem (part : tree.HasPart p) : p.node ∈ tree.walk := by
  refine (List.mergeSort_perm _ _).mem_iff.2 (List.mem_append.2 ?_)
  cases part with
  | reference member => exact Or.inr (List.mem_map_of_mem member)
  | call member | callee member | argument member | literal member =>
    exact Or.inl (List.mem_map_of_mem member)

theorem whole_or_inner (part : tree.HasPart p) : p.IsWhole ∨
    ∃ c ∈ tree.calls, p.node = .call c ∧ (p.start, p.stop) ∈ c.inner := by
  cases part with
  | reference member => exact Or.inl ⟨rfl, rfl⟩
  | call member => exact Or.inl ⟨rfl, rfl⟩
  | callee member => exact Or.inr ⟨_, member, rfl, List.mem_cons_self⟩
  | argument member own | literal member own =>
    exact Or.inr ⟨_, member, rfl, List.mem_cons_of_mem _ (List.mem_map_of_mem own)⟩

section Laid

variable (laid : tree.Laid)

include laid

theorem bounds (part : tree.HasPart p) : p.node.start ≤ p.start ∧ p.start < p.stop ∧
    p.stop ≤ p.node.stop ∧ p.node.stop ≤ tree.source.length := by
  obtain ⟨-, some, within⟩ := laid.separate.pairwise.1 _ part.node_mem
  rcases part.whole_or_inner with ⟨start, stop⟩ | ⟨c, member, node, inner⟩
  · omega
  · have bounds := (laid.calls c member).bounds_inner _ inner
    rw [node] at within ⊢
    change c.start ≤ p.start ∧ p.start < p.stop ∧ p.stop ≤ c.stop ∧ _
    exact ⟨bounds.1, bounds.2.1, Nat.le_of_lt bounds.2.2, within⟩

/-- Two parts have the same range or are apart, or one is a call that the other lies in. -/
theorem relation (part : tree.HasPart p) (other : tree.HasPart q) :
    (p.start = q.start ∧ p.stop = q.stop) ∨ p.stop ≤ q.start ∨ q.stop ≤ p.start ∨
      (p.IsInner ∧ q.IsWhole ∧ p.node = q.node) ∨ (q.IsInner ∧ p.IsWhole ∧ q.node = p.node) := by
  have bounds := part.bounds laid
  have bounds' := other.bounds laid
  by_cases same : p.node = q.node
  · have inner {p : Part} {c : Call} (part : tree.HasPart p) (member : c ∈ tree.calls)
        (node : p.node = .call c) (inner : (p.start, p.stop) ∈ c.inner) : p.IsInner := by
      have bounds := (laid.calls c member).bounds_inner _ inner
      rw [Part.IsInner, node]
      exact ⟨bounds.1, bounds.2.2⟩
    rcases part.whole_or_inner with whole | ⟨c, member, node, range⟩ <;>
      rcases other.whole_or_inner with whole' | ⟨c', member', node', range'⟩
    · exact Or.inl ⟨by rw [whole.1, same, whole'.1], by rw [whole.2, same, whole'.2]⟩
    · exact Or.inr (Or.inr (Or.inr (Or.inr
        ⟨inner other member' node' range', whole, same.symm⟩)))
    · exact Or.inr (Or.inr (Or.inr (Or.inl ⟨inner part member node range, whole', same⟩)))
    · rw [node, node', Node.call.injEq] at same
      subst same
      rcases (laid.calls c member).apart_inner range range' with equal | apart | apart
      · exact Or.inl (Prod.mk.injEq .. ▸ equal)
      · exact Or.inr (Or.inl apart)
      · exact Or.inr (Or.inr (Or.inl apart))
  · rcases or_of_pairwise laid.separate.pairwise.2 part.node_mem other.node_mem same with
      apart | apart
    · omega
    · omega

theorem of_inside {text text' : String} (part : tree.HasPart p) (other : tree.HasPart q)
    (inside : (p.edit text).Inside (q.edit text')) :
    p.IsInner ∧ q.IsWhole ∧ p.node = q.node := by
  obtain ⟨low, high, different⟩ := inside
  have different := mt sameRange_iff.2 (Bool.eq_false_iff.1 different)
  simp only [Part.start_edit, Part.stop_edit] at low high different
  have bounds := part.bounds laid
  have bounds' := other.bounds laid
  rcases part.relation laid other with same | apart | apart | within | ⟨inner, whole, node⟩
  · exact absurd same different
  · omega
  · omega
  · exact within
  · have := inner.2
    have := whole.2
    rw [node] at *
    omega

end Laid

end Tree.HasPart

/-- New texts for some parts. -/
abbrev Requests :=
  List (Part × String)

/-- The edits that new texts for some parts come to. -/
def Requests.edits (requests : Requests) : List Edit :=
  requests.map fun r => r.1.edit r.2

theorem Tree.Laid.layered {tree : Tree} (laid : tree.Laid) {requests : Requests}
    (parts : ∀ r ∈ requests, tree.HasPart r.1) : Layered requests.edits := by
  refine ⟨fun e member => ?_, fun e member f member' => ?_, fun e member f member' g member'' => ?_⟩
  · obtain ⟨r, requested, rfl⟩ := List.mem_map.1 member
    simpa using ((parts r requested).bounds laid).2.1
  · obtain ⟨r, requested, rfl⟩ := List.mem_map.1 member
    obtain ⟨r', requested', rfl⟩ := List.mem_map.1 member'
    have bounds := (parts r requested).bounds laid
    have bounds' := (parts r' requested').bounds laid
    simp only [Edit.Inside, ← Bool.not_eq_true, sameRange_iff, Part.start_edit, Part.stop_edit]
    rcases (parts r requested).relation laid (parts r' requested') with
      same | apart | apart | ⟨inner, whole, node⟩ | ⟨inner, whole, node⟩
    · exact Or.inl same
    · exact Or.inr (Or.inl apart)
    · exact Or.inr (Or.inr (Or.inl apart))
    · have inner := inner.2
      obtain ⟨start, stop⟩ := whole
      rw [node] at inner bounds
      omega
    · have inner := inner.2
      obtain ⟨start, stop⟩ := whole
      rw [node] at inner bounds'
      omega
  · obtain ⟨r, requested, rfl⟩ := List.mem_map.1 member
    obtain ⟨r', requested', rfl⟩ := List.mem_map.1 member'
    obtain ⟨r'', requested'', rfl⟩ := List.mem_map.1 member''
    intro inside inside'
    obtain ⟨-, whole, -⟩ := (parts r requested).of_inside laid (parts r' requested') inside
    obtain ⟨inner, -, -⟩ := (parts r' requested').of_inside laid (parts r'' requested'') inside'
    have := inner.2
    have := whole.2
    omega

/-! ## Calls and their callees -/

namespace Tree.HasPart

variable {tree : Tree} {p : Part} {c : Call}

theorem eq_call (laid : tree.Laid) (part : tree.HasPart p) (whole : p.IsWhole)
    (node : p.node = .call c) : p = .call c := by
  obtain ⟨start, stop⟩ := whole
  cases part with
  | reference member => cases node
  | call member =>
    cases node
    rfl
  | callee member => exact absurd stop (Nat.ne_of_lt (laid.calls _ member).callee.2)
  | argument member own | literal member own =>
    exact absurd stop (Nat.ne_of_lt ((laid.calls _ member).bounds _ own).2.2)

theorem eq_callee (laid : tree.Laid) (part : tree.HasPart p) (inner : p.IsInner)
    (start : p.start = p.node.start) : ∃ c, p = .callee c ∧ p.node = .call c := by
  cases part with
  | reference member => exact absurd inner.2 (Nat.lt_irrefl _)
  | call member => exact absurd inner.2 (Nat.lt_irrefl _)
  | callee member => exact ⟨_, rfl, rfl⟩
  | argument member own | literal member own =>
    have some := (laid.calls _ member).callee.1
    have after := ((laid.calls _ member).bounds _ own).1
    exact absurd start (Nat.ne_of_gt (Nat.lt_of_lt_of_le some after))

end Tree.HasPart

section Requests

variable {tree : Tree} {requests : Requests} {c : Call} {q : Part} {text : String}

theorem mem_edits {p : Part} (requested : p ∈ requests.map Prod.fst) :
    ∃ text, p.edit text ∈ requests.edits := by
  obtain ⟨r, member, rfl⟩ := List.mem_map.1 requested
  exact ⟨r.2, List.mem_map_of_mem member⟩

/-- An edit is shadowed if it is that of a call whose callee is edited as well. -/
theorem Tree.Laid.shadowed_iff (laid : tree.Laid) (parts : ∀ r ∈ requests, tree.HasPart r.1)
    (part : tree.HasPart q) : Shadowed requests.edits (q.edit text) ↔
      ∃ c, q = .call c ∧ .callee c ∈ requests.map Prod.fst := by
  constructor
  · rintro ⟨g, member, start, shorter⟩
    obtain ⟨r, requested, rfl⟩ := List.mem_map.1 member
    have inside : (r.1.edit r.2).Inside (q.edit text) :=
      ⟨by omega, by omega, Bool.eq_false_iff.2 (mt sameRange_iff.1 (by omega))⟩
    obtain ⟨inner, whole, node⟩ := (parts r requested).of_inside laid part inside
    rw [Part.start_edit, Part.start_edit, whole.1, ← node] at start
    obtain ⟨c, callee, own⟩ := (parts r requested).eq_callee laid inner start
    exact ⟨c, part.eq_call laid whole (node ▸ own), List.mem_map.2 ⟨r, requested, callee⟩⟩
  · rintro ⟨c, rfl, requested⟩
    obtain ⟨text', member⟩ := mem_edits requested
    cases part with
    | call own => exact ⟨_, member, rfl, (laid.calls c own).callee.2⟩

theorem Tree.Laid.callee_inside (laid : tree.Laid) (part : tree.HasPart (.call c))
    (text text' : String) :
    ((Part.callee c).edit text).Inside ((Part.call c).edit text') := by
  cases part with
  | call own =>
    have shorter : c.callee.stop < c.stop := (laid.calls c own).callee.2
    refine ⟨Nat.le_refl _, Nat.le_of_lt shorter, ?_⟩
    simp [sameRange, Part.stop, Nat.ne_of_lt shorter]

/-- The edits that prevail are the outermost ones if no call is edited with its callee. -/
theorem Tree.Laid.prevails_iff_outermost (laid : tree.Laid)
    (parts : ∀ r ∈ requests, tree.HasPart r.1) :
    (∀ e, Prevails requests.edits e ↔ Outermost requests.edits e) ↔
      ∀ c, .call c ∈ requests.map Prod.fst → .callee c ∉ requests.map Prod.fst := by
  have hasPart {p : Part} (requested : p ∈ requests.map Prod.fst) : tree.HasPart p := by
    obtain ⟨r, member, rfl⟩ := List.mem_map.1 requested
    exact parts r member
  constructor
  · intro agree c whole callee
    obtain ⟨text, member⟩ := mem_edits callee
    obtain ⟨text', member'⟩ := mem_edits whole
    obtain ⟨e, same, last⟩ := exists_isLast member
    obtain ⟨start, stop⟩ := sameRange_iff.1 same
    have prevails : Prevails requests.edits e := by
      refine ⟨last, fun shadowed => ?_, fun f requested inside => ?_⟩
      · have shadowed : Shadowed requests.edits ((Part.callee c).edit text) := by
          unfold Shadowed at shadowed ⊢
          rwa [start, stop] at shadowed
        obtain ⟨c', other, -⟩ := (laid.shadowed_iff parts (hasPart callee)).1 shadowed
        cases other
      · obtain ⟨r, edited, rfl⟩ := List.mem_map.1 requested
        have inside : ((Part.callee c).edit text).Inside (r.1.edit r.2) := by
          unfold Edit.Inside sameRange at inside ⊢
          rwa [start, stop] at inside
        obtain ⟨-, outer, node⟩ := (hasPart callee).of_inside laid (parts r edited) inside
        exact (laid.shadowed_iff parts (parts r edited)).2
          ⟨c, (parts r edited).eq_call laid outer node.symm, callee⟩
    have inside := laid.callee_inside (hasPart whole) text text'
    refine ((agree e).1 prevails).2 _ member' ?_
    unfold Edit.Inside sameRange at inside ⊢
    rwa [start, stop]
  · intro apart e
    have clear {f : Edit} (member : f ∈ requests.edits) : ¬ Shadowed requests.edits f := by
      obtain ⟨r, requested, rfl⟩ := List.mem_map.1 member
      intro shadowed
      obtain ⟨c, whole, callee⟩ := (laid.shadowed_iff parts (parts r requested)).1 shadowed
      exact apart c (List.mem_map.2 ⟨r, requested, whole⟩) callee
    constructor
    · rintro ⟨last, -, inside⟩
      exact ⟨last, fun f member within => clear member (inside f member within)⟩
    · rintro ⟨last, inside⟩
      exact ⟨last, clear last.mem, fun f member within => absurd within (inside f member)⟩

end Requests

/-! ## Rendering -/

/-- The source of a script under new texts for some parts, given one after the other. -/
def Tree.rendered (tree : Tree) (requests : Requests) : List Char :=
  render tree.source (requests.edits.foldl schedule [])

/-- Edits that are scheduled in source order are applied as they come. -/
theorem Tree.rendered_of_sorted {tree : Tree} {requests : Requests}
    (sorted : (requests.edits.foldl schedule []).Pairwise fun a b => a.isBefore b = true) :
    tree.rendered requests = splice 0 tree.source (requests.edits.foldl schedule []) := by
  rw [rendered, render, List.mergeSort_of_pairwise sorted]

/-- Under new texts for parts of a script the edits that prevail come into place and all else is
kept. These are the outermost edits just when no call is edited along with its callee. Edits of
different ranges may be scheduled in any order. -/
theorem render_outermost {names : List String} {source : List Char} {tree : Tree}
    (parsed : parse names source = .ok tree) (requests : Requests)
    (parts : ∀ r ∈ requests, tree.HasPart r.1) :
    (∃ edits, Replaced 0 edits source (tree.rendered requests) ∧
      edits.Pairwise (fun a b => a.stop ≤ b.start) ∧
      ∀ e, e ∈ edits ↔ Prevails requests.edits e) ∧
    ((∀ e, Prevails requests.edits e ↔ Outermost requests.edits e) ↔
      ∀ c, .call c ∈ requests.map Prod.fst → .callee c ∉ requests.map Prod.fst) ∧
    ∀ requests' : Requests,
      (∀ e, requests'.edits.filter (·.sameRange e) = requests.edits.filter (·.sameRange e)) →
        tree.rendered requests' = tree.rendered requests := by
  have laid := parse_laid parsed
  have same : tree.source = source := (parse_placed parsed).1
  have layered := laid.layered parts
  refine ⟨⟨Layered.kept requests.edits, ?_, ?_, fun e => layered.mem_kept_iff⟩,
    laid.prevails_iff_outermost parts, fun requests' alike => ?_⟩
  · rw [← same]
    refine splice_replaced fun e member => ?_
    obtain ⟨r, requested, rfl⟩ := List.mem_map.1 (mem_ordered.1 member).mem
    have bounds := (parts r requested).bounds laid
    simp only [Part.start_edit, Part.stop_edit]
    omega
  · exact (pairwise_keptFrom fun e member => layered.some e (mem_ordered.1 member).mem).2
  · exact congrArg (splice 0 tree.source) (ordered_congr alike)

/-- Of the edits of a shorthand, of a call and of the literal in it, the first two are outermost. -/
theorem render_outermost_of_shorthand :
    let call : Call := ⟨⟨"f", 0, false⟩, 6, [⟨2, 5, "'a'", some "a"⟩]⟩
    let shorthand : Reference := ⟨"b", 14, true⟩
    let tree : Tree := ⟨"f('a'); x = { b };".toList, [⟨"x", 8, false⟩, shorthand], [call]⟩
    let requests : Requests := [(.call call, "g()"),
      (.literal call ⟨2, 5, "'a'", some "a"⟩, "c"), (.reference shorthand, "d")]
    parse ["f"] "f('a'); x = { b };".toList = .ok tree ∧
      (∃ edits, Replaced 0 edits "f('a'); x = { b };".toList (tree.rendered requests) ∧
        ∀ e, e ∈ edits ↔ Outermost requests.edits e) ∧
      tree.rendered requests = "g(); x = { b: d };".toList := by
  intro call shorthand tree requests
  have parsed : parse ["f"] "f('a'); x = { b };".toList = .ok tree := by decide +kernel
  have parts : ∀ r ∈ requests, tree.HasPart r.1 := by
    have called : call ∈ tree.calls := List.mem_singleton.2 rfl
    simp only [requests, List.forall_mem_cons, List.not_mem_nil, false_imp_iff, implies_true]
    exact ⟨.call called, .literal called (List.mem_singleton.2 rfl) rfl,
      .reference (List.mem_cons_of_mem _ (List.mem_singleton.2 rfl)), trivial⟩
  obtain ⟨⟨edits, replaced, -, kept⟩, outermost, -⟩ := render_outermost parsed requests parts
  have apart := outermost.2 (by simp [requests])
  exact ⟨parsed, ⟨edits, replaced, fun e => (kept e).trans (apart e)⟩,
    (Tree.rendered_of_sorted (by decide +kernel)).trans (by decide +kernel)⟩

/-- The edit of a call is outermost and yet has no effect where its callee is edited as well. -/
theorem render_outermost_fails :
    let call : Call := ⟨⟨"f", 0, false⟩, 4, [⟨2, 3, "a", none⟩]⟩
    let tree : Tree := ⟨"f(a)".toList, [], [call]⟩
    let requests : Requests := [(.callee call, "g"), (.call call, "X")]
    parse ["f"] "f(a)".toList = .ok tree ∧ tree.HasPart (.callee call) ∧
      tree.HasPart (.call call) ∧ Outermost requests.edits ((Part.call call).edit "X") ∧
      tree.rendered requests = "g(a)".toList :=
  ⟨by decide +kernel, .callee (List.mem_singleton.2 rfl), .call (List.mem_singleton.2 rfl),
    by decide +kernel, (Tree.rendered_of_sorted (by decide +kernel)).trans (by decide +kernel)⟩

end Folio.Script
