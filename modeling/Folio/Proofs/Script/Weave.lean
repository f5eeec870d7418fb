import Folio.Proofs.Script.Invocation
import Folio.Proofs.Script.Rescan
import Folio.Proofs.Script.Splice

/-!
# A spliced script as a sequence of tokens

The nodes of a script lie on its tokens, so a splice with quoted literals is the script's tokens with
literals in place of some of them (`woven_of_spliced`).
-/

namespace Folio.Script

open Text

/-! ## Splits -/

theorem significantFrom_split {broken : Bool} {tokens before after : List Token} {t : Token}
    (split : significantFrom broken tokens = before ++ t :: after) :
    ∃ raw t' raw', tokens = raw ++ t' :: raw' ∧ t'.kind.isTrivia = false ∧
      t = { t' with afterBreak := t.afterBreak } ∧ significantFrom broken raw = before ∧
      significant raw' = after := by
  induction tokens generalizing broken before with
  | nil => simp [significantFrom] at split
  | cons first tokens ih =>
    rw [significantFrom] at split
    split at split
    · next trivial =>
      obtain ⟨raw, t', raw', rfl, some, same, inside, rest⟩ := ih split
      exact ⟨first :: raw, t', raw', rfl, some, same,
        by rw [significantFrom, if_pos trivial, inside], rest⟩
    · next some =>
      cases before with
      | nil =>
        obtain ⟨rfl, rfl⟩ := List.cons.inj split
        exact ⟨[], first, tokens, rfl, Bool.eq_false_iff.2 some, rfl, rfl, rfl⟩
      | cons head before =>
        obtain ⟨rfl, later⟩ := List.cons.inj split
        obtain ⟨raw, t', raw', rfl, some', same, inside, rest⟩ := ih later
        exact ⟨first :: raw, t', raw', rfl, some', same,
          by rw [significantFrom, if_neg some, inside], rest⟩

theorem Covers.split {offset : Nat} {before after : List Token} {t : Token} {s : List Char}
    (covers : Covers offset (before ++ t :: after) s) :
    ∃ rest, s = spelling before ++ t.text.toList ++ rest ∧
      t.start = offset + (spelling before).length ∧ Covers t.stop after rest := by
  induction before generalizing offset s with
  | nil =>
    cases covers with
    | cons some later => exact ⟨_, rfl, rfl, later⟩
  | cons head before ih =>
    cases covers with
    | cons some later =>
      obtain ⟨rest, rfl, start, after⟩ := ih later
      refine ⟨rest, by simp [spelling], ?_, after⟩
      rw [start, spelling, spelling, List.flatMap_cons, List.length_append, Token.stop,
        String.length_toList]
      omega

/-- Text before all nodes stays. -/
theorem Spliced.cut {offset high : Nat} {texts : List (Node × Option String)}
    {before s out : List Char} (spliced : Spliced offset texts (before ++ s) out)
    (separate : Node.Separate (offset + before.length) (texts.map Prod.fst) high) :
    ∃ out', out = before ++ out' ∧ Spliced (offset + before.length) texts s out' := by
  generalize whole : before ++ s = source at spliced
  cases spliced with
  | done => exact ⟨s, whole.symm, .done _ s⟩
  | @node _ n texts gap old rest output text start stop later =>
    have le : before.length ≤ gap.length := by
      have bound : offset + before.length ≤ n.start := separate.1
      omega
    rw [List.append_assoc] at whole
    obtain ⟨gap', rfl⟩ := List.prefix_of_prefix_length_le ⟨s, whole⟩ ⟨old ++ rest, rfl⟩ le
    rw [List.append_assoc] at whole
    refine ⟨_, by rw [List.append_assoc, List.append_assoc], ?_⟩
    rw [List.append_cancel_left whole, ← List.append_assoc, ← List.append_assoc]
    refine .node text ?_ stop later
    rw [start, List.length_append, Nat.add_assoc]

/-! ## The tokens of a call -/

theorem kind_of_literalOf {tokens : List Token} {raw : List Char}
    (literal : (Argument.literalOf tokens raw).isSome = true) :
    ∀ t ∈ tokens, t.kind ∈ [Kind.doubleQuoted, .singleQuoted, .templateText] := by
  unfold Argument.literalOf at literal
  split at literal
  · next plain =>
    rw [Bool.or_eq_true] at plain
    rcases plain with quoted | template
    · unfold Argument.isQuoted at quoted
      split at quoted
      · intro u member
        cases List.mem_singleton.1 member
        simp only [Bool.or_eq_true, beq_iff_eq] at quoted
        rcases quoted with kind | kind <;> simp [kind]
      · cases quoted
    · simp only [Argument.isTemplate, Bool.and_eq_true, List.all_eq_true, beq_iff_eq] at template
      intro u member
      simp [template.1.1.1 u member]
  · cases literal

/-- The kinds of the tokens between the brackets of a proper call. -/
def argumentKinds : List Kind :=
  [.doubleQuoted, .singleQuoted, .templateText, .punctuation]

theorem kind_of_ofTokens {source : List Char} {group more : List Token} {first : Token}
    (spelled : group.reverse = first :: more)
    (literal : (Argument.ofTokens source first more).literal.isSome = true) :
    ∀ t ∈ group, t.kind ∈ argumentKinds := by
  intro t member
  refine List.mem_append_left [Kind.punctuation] (kind_of_literalOf literal t ?_)
  rw [← spelled]
  exact List.mem_reverse.2 member

/-- Arguments that are plain strings hold quoted text only, with commas between them. -/
theorem kind_of_splitArguments {source : List Char} {depth : Nat} {group tokens : List Token}
    {arguments : List Argument} (split : splitArguments source depth group tokens = .ok arguments)
    (literal : ∀ a ∈ arguments, a.literal.isSome = true) :
    (∀ t ∈ group, t.kind ∈ argumentKinds) ∧ ∀ t ∈ tokens, t.kind ∈ argumentKinds := by
  fun_induction splitArguments source depth group tokens generalizing arguments with
  | case1 depth group none =>
    cases List.reverse_eq_nil_iff.1 none
    exact ⟨by simp, by simp⟩
  | case2 depth group first more spelled =>
    cases split
    exact ⟨kind_of_ofTokens spelled (literal _ List.mem_cons_self), by simp⟩
  | case3 => cases split
  | case4 depth group t r deeper comma first more spelled =>
    rename_i ih
    obtain ⟨others, splitRest, rfl⟩ := map_ok split
    obtain ⟨own, literal⟩ := List.forall_mem_cons.1 literal
    have mark : t.kind = .punctuation :=
      beq_iff_eq.1 (Bool.and_eq_true_iff.1 comma.2).1
    exact ⟨kind_of_ofTokens spelled own,
      List.forall_mem_cons.2 ⟨by rw [mark]; decide, (ih splitRest literal).2⟩⟩
  | case5 depth group t r deeper other =>
    rename_i ih
    obtain ⟨head, later⟩ := ih split literal
    obtain ⟨own, head⟩ := List.forall_mem_cons.1 head
    exact ⟨head, List.forall_mem_cons.2 ⟨own, later⟩⟩

theorem forall_literal_of_isProper {c : Call} (proper : c.isProper = true) :
    ∀ a ∈ c.arguments, a.literal.isSome = true := by
  unfold Call.isProper Call.literal? at proper
  split at proper
  · next a single =>
    intro b member
    rw [single] at member
    cases List.mem_singleton.1 member
    exact proper
  · cases proper

/-- An opening bracket is punctuation or the text of a template. -/
theorem kind_of_opener {mode : Mode} {previous : Option Char} {offset : Nat} {s : List Char}
    {tokens : List Token} (scanned : scanFrom mode previous offset s = .ok tokens) :
    ∀ t ∈ tokens, t.text = "(" → t.kind = .punctuation ∨ t.kind = .templateText := by
  induction tokens generalizing mode previous offset s with
  | nil => simp
  | cons t tokens ih =>
    obtain ⟨c, u, w, found, -, shaped, -, rfl, rest⟩ := scanFrom_cons_eq_ok scanned
    refine List.forall_mem_cons.2 ⟨fun opener => ?_, ih rest⟩
    have spelled : c :: u = ['('] := by
      have chars := congrArg String.toList opener
      rwa [String.toList_ofList] at chars
    obtain ⟨rfl, rfl⟩ := List.cons.inj spelled
    by_cases code : mode.InCode
    · rw [shape_eq_codeShape code (by decide), codeShape_opener] at shaped
      cases shaped
      exact Or.inl rfl
    · obtain ⟨outer, nesting⟩ := exists_of_not_inCode code
      unfold shape at shaped
      rw [nesting] at shaped
      rcases templateShape_kind shaped with ⟨kind, -⟩ | ⟨-, dollar⟩
      · exact Or.inr kind
      · exact absurd dollar (by decide)

theorem mem_significantFrom (broken : Bool) {tokens : List Token} {t : Token} (member : t ∈ tokens)
    (some : ¬t.kind.isTrivia = true) :
    ∃ late, { t with afterBreak := late } ∈ significantFrom broken tokens := by
  induction tokens generalizing broken with
  | nil => cases member
  | cons first tokens ih =>
    rw [significantFrom]
    rcases List.mem_cons.1 member with rfl | member
    · rw [if_neg some]
      exact ⟨broken, List.mem_cons_self⟩
    · split
      · exact ih _ member
      · obtain ⟨late, member⟩ := ih false member
        exact ⟨late, List.mem_cons_of_mem _ member⟩

/-! ## The whole script -/

section Woven

variable {routes : List (String × String)} {source : List Char}
  {Site : Token → List Token → Nat → Prop} {Gone : Reference → Prop}

/-- A replaced node that begins here: what it replaces, and the rest. -/
theorem Spliced.first {offset : Nat} {n : Node} {text : Option String}
    {texts : List (Node × Option String)} {old rest out : List Char}
    (spliced : Spliced offset ((n, text) :: texts) (old ++ rest) out) (start : n.start = offset)
    (stop : n.stop = offset + old.length) :
    ∃ out', out = text.elim old (fun text => (n.replacement text).toList) ++ out' ∧
      Spliced n.stop texts rest out' := by
  generalize whole : old ++ rest = s at spliced
  cases spliced with
  | @node _ _ _ gap old' rest' output _ start' stop' later =>
    have empty : gap = [] := List.length_eq_zero_iff.1 (by omega)
    subst empty
    rw [List.nil_append] at whole
    obtain ⟨rfl, rfl⟩ := List.append_inj whole (by omega)
    exact ⟨output, rfl, later⟩

/-- A splice with the routes and with the answers to proper calls is woven. Gone are the references
with a route. -/
theorem woven_of_spliced {nodes : List Node} {answers : List String} {tokens : List Token}
    {broken : Bool} {offset : Nat} {s out : List Char} (covers : Covers offset tokens s)
    (placed : Placed source helperNames Site nodes (significantFrom broken tokens))
    (spliced : Spliced offset (answered routes nodes answers) s out)
    (enough : answers.length = (Node.calls nodes).length)
    (proper : ∀ c ∈ Node.calls nodes, c.isProper = true)
    (openers : ∀ t ∈ tokens, t.text = "(" → t.kind = .punctuation ∨ t.kind = .templateText)
    (gone : ∀ r : Reference, offset ≤ r.start →
      (Gone r ↔ Node.reference r ∈ nodes ∧ (routes.lookup r.name).isSome = true)) :
    Woven Site Gone broken tokens out := by
  induction length : tokens.length using Nat.strongRecOn
    generalizing nodes answers tokens broken offset s out with
  | ind n ih =>
  subst length
  cases covers with
  | nil =>
    cases placed with
    | nil =>
      cases spliced with
      | done => exact .done broken
  | @cons t tokens rest some later =>
    obtain ⟨-, openers⟩ := List.forall_mem_cons.1 openers
    have smaller : tokens.length < (t :: tokens).length := Nat.lt_succ_self _
    have stop : t.start + t.text.toList.length = t.stop := by
      rw [Token.stop, String.length_toList]
    have after : t.start < t.stop := by
      have positive : 0 < t.text.toList.length :=
        List.length_pos_iff.2 fun none => some (String.toList_eq_nil_iff.1 none)
      omega
    have goneAfter : ∀ r : Reference, t.stop ≤ r.start →
        (Gone r ↔ Node.reference r ∈ nodes ∧ (routes.lookup r.name).isSome = true) :=
      fun r beyond => gone r (by omega)
    have kept {broken' : Bool} {nodes : List Node}
        (placed : Placed source helperNames Site nodes (significantFrom broken' tokens))
        (spliced : Spliced t.start (answered routes nodes answers) (t.text.toList ++ rest) out)
        (enough : answers.length = (Node.calls nodes).length)
        (proper : ∀ c ∈ Node.calls nodes, c.isProper = true)
        (gone : ∀ r : Reference, t.stop ≤ r.start →
          (Gone r ↔ Node.reference r ∈ nodes ∧ (routes.lookup r.name).isSome = true)) :
        ∃ out', out = t.text.toList ++ out' ∧ Woven Site Gone broken' tokens out' := by
      have separate := placed.separate (later.significant_ascending _)
      rw [← stop, ← answered_fst routes nodes answers] at separate
      obtain ⟨out', same, splicedRest⟩ := spliced.cut separate
      rw [stop] at splicedRest
      exact ⟨out', same, ih _ smaller later placed splicedRest enough proper openers gone rfl⟩
    -- Nodes on the tokens to come begin behind this one.
    have begins {broken' : Bool} {nodes : List Node}
        (placed : Placed source helperNames Site nodes (significantFrom broken' tokens))
        {r : Reference} (member : Node.reference r ∈ nodes) : r.start ≠ t.start := by
      have beyond : t.stop ≤ r.start :=
        ((placed.separate (later.significant_ascending _)).pairwise.1 _ member).1
      omega
    rw [significantFrom] at placed
    split at placed
    · next trivial =>
      obtain ⟨out', rfl, woven⟩ := kept placed spliced enough proper goneAfter
      exact .trivia t trivial woven
    · next significant' =>
      have significant' := Bool.eq_false_iff.2 significant'
      generalize current : { t with afterBreak := broken } = t' at placed
      generalize toCome : significantFrom false tokens = rest' at placed
      cases placed with
      | pass _ site placed =>
        subst current toCome
        obtain ⟨out', rfl, woven⟩ := kept placed spliced enough proper goneAfter
        refine .kept t significant' (fun shorthand lost => ?_) site woven
        exact begins placed ((gone _ (Nat.le_refl _)).1 lost).1 rfl
      | reference _ shorthand plain simple follows uncalled site placed =>
        subst current toCome
        obtain ⟨out', rfl, splicedRest⟩ := spliced.first rfl stop.symm
        have woven := ih _ smaller later placed splicedRest enough proper openers
          (fun r beyond => (goneAfter r beyond).trans (and_congr_left fun _ => by
            rw [List.mem_cons, or_iff_right]
            rintro same
            cases Node.reference.inj same
            exact absurd beyond (Nat.not_le.2 after))) rfl
        have lost := gone ⟨t.text, t.start, shorthand⟩ (Nat.le_refl _)
        dsimp only at plain simple uncalled lost ⊢
        cases route : routes.lookup t.text with
        | none =>
          refine .kept t significant' (fun shorthand' lost' => ?_) site woven
          have found := ((gone _ (Nat.le_refl _)).1 lost').2
          simp [route] at found
        | some path =>
          have lost := lost.2 ⟨List.mem_cons_self, by simp [route]⟩
          cases shorthand with
          | false => exact .literal t path plain simple uncalled lost site woven
          | true =>
            have spelled : (t.text ++ ": " ++ quote path).toList ++ out' =
                t.text.toList ++ ':' :: ' ' :: ((quote path).toList ++ out') := by
              simp
            have labelled : Woven Site Gone broken (t :: tokens) _ :=
              .labelled t path plain simple (follows rfl) uncalled lost site woven
            rw [← spelled] at labelled
            exact labelled
      | @call nodes tokens' inside arguments _ opener close plain named opens closes split site placed =>
        subst current
        have toCome : significantFrom false tokens = (opener :: inside) ++ close :: tokens' := toCome
        obtain ⟨raw, close', raw', rfl, significant'', sameClose, within, beyond⟩ :=
          significantFrom_split toCome
        obtain ⟨rest', rfl, startClose, after⟩ := later.split
        have argumentsProper := proper _ List.mem_cons_self
        have stopClose : close.stop = t.start +
            (t.text.toList ++ (spelling raw ++ close'.text.toList)).length := by
          rw [sameClose, List.length_append, List.length_append, ← Nat.add_assoc, stop,
            ← Nat.add_assoc, ← startClose, String.length_toList]
          rfl
        rw [← List.append_assoc] at spliced
        obtain ⟨out', rfl, splicedRest⟩ := spliced.first rfl stopClose
        cases answers with
        | nil => cases enough
        | cons answer answers =>
          have same : close.stop = close'.stop := by rw [sameClose]; rfl
          have woven := ih raw'.length (by simp; omega) after (beyond ▸ placed) (same ▸ splicedRest)
            (Nat.succ.inj enough) (fun c member => proper c (List.mem_cons_of_mem _ member))
            (fun u member => openers u (by simp [member]))
            (fun r beyond => (gone r (by omega)).trans (by simp)) rfl
          refine .call t close' answer plain (isSimpleName_of_mem named) (fun u member => ?_)
            significant'' ?_ ?_ woven
          · by_cases trivial : u.kind.isTrivia = true
            · constructor <;> intro kind <;> rw [kind] at trivial <;> cases trivial
            · obtain ⟨late, member'⟩ := mem_significantFrom false member trivial
              rw [within] at member'
              rcases List.mem_cons.1 member' with rfl | member'
              · rcases openers u (by simp [member]) opens with kind | kind <;> simp [kind]
              · have kind := (kind_of_splitArguments split
                  (forall_literal_of_isProper argumentsProper)).2 _ member'
                have other : ∀ k ∈ argumentKinds, k ≠ .substitution ∧ k ≠ .plainName := by decide
                exact other _ kind
          · rw [sameClose] at closes
            exact closes
          · have count : (significant raw).length + 1 = inside.length + 2 := by
              rw [significant, within]
              rfl
            rw [count, significant, toCome]
            exact site

end Woven

end Folio.Script
