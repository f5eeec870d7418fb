import Folio.Proofs.Location
import Folio.Proofs.Script.Acceptance
import Folio.Proofs.Script.Render

/-!
# Locations of parts and defects

Each part of a script begins where a significant token does (`HasPart.located`), and each defect is
told of one, whose text it names, unless it is a character that begins no token (`parse_defect`). So
the lines and columns of both are those of offsets at which the lexer begins a token, each of which
has a location of its own (`parse_located`).
-/

namespace Folio.Script

open Text

/-! ## Where tokens begin -/

/-- The offsets at which the lexer begins a token. If a character begins none, it is the last of
them. -/
def startsFrom (mode : Mode) (previous : Option Char) (offset : Nat) : List Char → List Nat
  | [] => []
  | c :: r =>
    offset ::
      match shape mode previous c r with
      | none => []
      | some s =>
        let text := c :: r.take s.more
        startsFrom s.mode text.getLast? (offset + text.length) (r.drop s.more)
termination_by s => s.length
decreasing_by simp only [List.length_drop, List.length_cons]; omega

def tokenStarts (source : List Char) : List Nat :=
  startsFrom ⟨[], false⟩ none 0 source

theorem startsFrom_of_ok {mode : Mode} {previous : Option Char} {offset : Nat} {s : List Char}
    {tokens : List Token} (scanned : scanFrom mode previous offset s = .ok tokens) :
    startsFrom mode previous offset s = tokens.map Token.start := by
  fun_induction scanFrom mode previous offset s generalizing tokens with
  | case1 =>
    cases scanned
    rw [startsFrom]
    rfl
  | case2 => cases scanned
  | case3 => cases scanned
  | case4 mode previous offset c r found shaped text later laterScanned =>
    rename_i ih
    cases scanned
    rw [startsFrom, shaped]
    exact congrArg (offset :: ·) (ih laterScanned)

/-- A scan that fails stops at the last offset that begins a token, at a character that does not. -/
theorem startsFrom_of_error {mode : Mode} {previous : Option Char} {offset : Nat} {s : List Char}
    {d : Defect} (failed : scanFrom mode previous offset s = .error d) :
    (startsFrom mode previous offset s).getLast? = some d.offset ∧ offset ≤ d.offset ∧
      ∃ c, d.cause = .unexpectedCharacter c ∧ s[d.offset - offset]? = some c := by
  fun_induction scanFrom mode previous offset s with
  | case1 => cases failed
  | case2 mode previous offset c r none =>
    cases failed
    rw [startsFrom, none]
    refine ⟨rfl, Nat.le_refl _, c, rfl, ?_⟩
    rw [Nat.sub_self]
    rfl
  | case3 mode previous offset c r found shaped text d' later ih =>
    cases failed
    obtain ⟨last, le, d, cause, here⟩ := ih later
    have long : text.length = (r.take found.more).length + 1 := rfl
    refine ⟨?_, by omega, d, cause, ?_⟩
    · have some : startsFrom found.mode text.getLast? (offset + text.length)
          (r.drop found.more) ≠ [] := by
        intro none
        rw [none] at last
        cases last
      rw [startsFrom, shaped]
      exact (List.getLast?_cons_of_ne_nil some).trans last
    · have whole : c :: r = text ++ r.drop found.more := by
        rw [List.cons_append, List.take_append_drop]
      rw [whole, List.getElem?_append_right (by omega), ← here]
      congr 1
      omega
  | case4 => cases failed

theorem mem_startsFrom {mode : Mode} {previous : Option Char} {offset start : Nat} {s : List Char}
    (member : start ∈ startsFrom mode previous offset s) : start < offset + s.length := by
  fun_induction startsFrom mode previous offset s with
  | case1 => cases member
  | case2 mode previous offset c r ih =>
    rcases List.mem_cons.1 member with rfl | member
    · simp
    · split at member
      · cases member
      · next found shaped =>
        have := ih found member
        simp only [List.length_cons, List.length_take, List.length_drop] at this ⊢
        omega

theorem mem_tokenStarts {source : List Char} {start : Nat} (member : start ∈ tokenStarts source) :
    start < source.length := by
  simpa using mem_startsFrom member

theorem start_mem_tokenStarts {source : List Char} {tokens : List Token} {t : Token}
    (scanned : scan source = .ok tokens) (member : t ∈ significant tokens) :
    t.start ∈ tokenStarts source := by
  obtain ⟨before, after, split⟩ := List.append_of_mem member
  obtain ⟨raw, t', raw', rfl, -, same, -⟩ := significantFrom_split split
  rw [tokenStarts, startsFrom_of_ok scanned, same]
  exact List.mem_map.2 ⟨t', by simp, rfl⟩

/-! ## Parts -/

/-- The location at which a part of a script begins. -/
def Part.location (source : List Char) (p : Part) : Location :=
  .ofOffset source p.start

/-- Whether a part begins with a token, which is its name if it has one. -/
def Part.BeginsWith (p : Part) (t : Token) : Prop :=
  t.start = p.start ∧
    match p with
    | .reference r => t.text = r.name
    | .call c | .callee c => t.text = c.callee.name
    | .argument .. | .literal .. => True

section Parts

variable {source : List Char} {names : List String}

theorem start_of_splitArguments {depth : Nat} {group tokens : List Token}
    {arguments : List Argument} (split : splitArguments source depth group tokens = .ok arguments) :
    ∀ a ∈ arguments, ∃ t ∈ group ++ tokens, t.start = a.start := by
  fun_induction splitArguments source depth group tokens generalizing arguments with
  | case1 depth group none =>
    cases split
    exact List.forall_mem_nil _
  | case2 depth group first more spelled =>
    cases split
    have member : first ∈ group := List.mem_reverse.1 (spelled ▸ List.mem_cons_self)
    exact List.forall_mem_singleton.2 ⟨first, by simpa using member, rfl⟩
  | case3 => cases split
  | case4 depth group t r deeper comma first more spelled =>
    rename_i ih
    obtain ⟨others, splitRest, rfl⟩ := map_ok split
    have member : first ∈ group := List.mem_reverse.1 (spelled ▸ List.mem_cons_self)
    refine List.forall_mem_cons.2 ⟨⟨first, List.mem_append_left _ member, rfl⟩, fun a listed => ?_⟩
    obtain ⟨u, later, start⟩ := ih splitRest a listed
    exact ⟨u, by simp at later ⊢; exact Or.inr (Or.inr later), start⟩
  | case5 depth group t r deeper other =>
    rename_i ih
    intro a listed
    obtain ⟨u, later, start⟩ := ih split a listed
    exact ⟨u, by simp at later ⊢; tauto, start⟩

/-- Whether a node, and each argument if it is a call, begins with one of some tokens. -/
def Node.BeginsIn (tokens : List Token) : Node → Prop
  | .reference r => ∃ t ∈ tokens, t.start = r.start ∧ t.text = r.name
  | .call c => (∃ t ∈ tokens, t.start = c.start ∧ t.text = c.callee.name) ∧
      ∀ a ∈ c.arguments, ∃ t ∈ tokens, t.start = a.start

theorem Node.BeginsIn.mono {tokens tokens' : List Token} {node : Node}
    (begins : node.BeginsIn tokens) (subset : tokens ⊆ tokens') : node.BeginsIn tokens' := by
  have more {P : Token → Prop} (found : ∃ t ∈ tokens, P t) : ∃ t ∈ tokens', P t :=
    found.imp fun t member => ⟨subset member.1, member.2⟩
  cases node with
  | reference r => exact more begins
  | call c => exact ⟨more begins.1, fun a own => more (begins.2 a own)⟩

theorem Placed.beginsIn {Site : Token → List Token → Nat → Prop} {nodes : List Node}
    {tokens : List Token} (placed : Placed source names Site nodes tokens) :
    ∀ node ∈ nodes, node.BeginsIn tokens := by
  induction placed with
  | nil => exact nofun
  | pass t site placed ih => exact fun node member => (ih node member).mono (List.subset_cons_self _ _)
  | reference t shorthand plain simple follows uncalled site placed ih =>
    exact List.forall_mem_cons.2 ⟨⟨t, List.mem_cons_self, rfl, rfl⟩,
      fun node member => (ih node member).mono (List.subset_cons_self _ _)⟩
  | @call nodes tokens inside arguments t opener close plain named opens closes split site placed ih =>
    refine List.forall_mem_cons.2 ⟨⟨⟨t, List.mem_cons_self, rfl, rfl⟩, fun a own => ?_⟩,
      fun node member => (ih node member).mono fun u later => by simp [later]⟩
    obtain ⟨u, member, start⟩ := start_of_splitArguments split a own
    have member : u ∈ inside := by simpa using member
    exact ⟨u, by simp [member], start⟩

/-- Each part of a script begins with a significant token. -/
theorem Tree.HasPart.located {tree : Tree} {p : Part} (parsed : parse names source = .ok tree)
    (part : tree.HasPart p) :
    ∃ tokens, scan source = .ok tokens ∧ ∃ t ∈ significant tokens, p.BeginsWith t := by
  obtain ⟨-, calls, references, -, tokens, scanned, placed⟩ := parse_placed parsed
  have begins := placed.beginsIn p.node (part.node_mem)
  refine ⟨tokens, scanned, ?_⟩
  cases part with
  | reference member => exact begins
  | call member => exact begins.1
  | callee member => exact begins.1
  | argument member own => exact (begins.2 _ own).imp fun t found => ⟨found.1, found.2, trivial⟩
  | literal member own plain =>
    exact (begins.2 _ own).imp fun t found => ⟨found.1, found.2, trivial⟩

end Parts

/-! ## Defects -/

/-- Whether a defect is told of a token: it lies at its start and names its text. -/
def Defect.IsAt (d : Defect) (t : Token) : Prop :=
  t.start = d.offset ∧
    match d.cause with
    | .unclosed opener => t.text = opener
    | .unexpectedCloser closer => t.text = closer
    | .mismatched _ _ found => t.text = found
    | .unclosedCall _ => t.text = "("
    | .emptyArgument => t.text = ","
    | _ => False

/-- The open brackets, innermost first. -/
def State.openers (s : State) : List Token :=
  s.outer.map Prod.fst

section Defects

variable {source : List Char} {names : List String} {s s' : State} {previous : Option Token}
  {t : Token} {rest tokens : List Token} {d : Defect}

/-- Whether a step goes on with no other open brackets than before and its token, or fails at one of
the tokens from its token on. -/
def Locates (s : State) (t : Token) (rest : List Token) (outcome : Except Defect State) : Prop :=
  match outcome with
  | .ok s' => s'.openers ⊆ t :: s.openers
  | .error d => ∃ u ∈ t :: rest, d.IsAt u

theorem locates_leave (s : State) (t : Token) (rest : List Token) :
    Locates s t rest (s.leave t t.text) := by
  unfold State.leave
  cases around : s.outer with
  | nil => exact ⟨t, List.mem_cons_self, rfl, rfl⟩
  | cons top outer =>
    obtain ⟨opener, scope⟩ := top
    dsimp only
    split
    · intro u member
      have member : u ∈ s.openers := by
        rw [State.openers, around]
        exact List.mem_cons_of_mem _ member
      exact List.mem_cons_of_mem _ member
    · exact ⟨t, List.mem_cons_self, rfl, rfl⟩

theorem locates_closing (s : State) (t : Token) (rest : List Token) (following : Option Token) :
    Locates s t rest (s.closing t following) := by
  have left := locates_leave s t rest
  unfold State.closing
  cases found : s.leave t t.text with
  | error d => rwa [found] at left
  | ok s' =>
    rw [found] at left
    dsimp only
    split <;> exact left

theorem splitArguments_defect {depth : Nat} {group : List Token}
    (failed : splitArguments source depth group tokens = .error d) : ∃ u ∈ tokens, d.IsAt u := by
  fun_induction splitArguments source depth group tokens with
  | case1 => cases failed
  | case2 => cases failed
  | case3 depth group t r deeper comma none =>
    cases failed
    exact ⟨t, List.mem_cons_self, rfl, eq_of_beq (Bool.and_eq_true_iff.1 comma.2).2⟩
  | case4 depth group t r deeper comma first more spelled =>
    rename_i ih
    cases split : splitArguments source 0 [] r with
    | error d' =>
      rw [split] at failed
      cases failed
      exact (ih split).imp fun u found => ⟨List.mem_cons_of_mem _ found.1, found.2⟩
    | ok arguments =>
      rw [split] at failed
      cases failed
  | case5 =>
    rename_i ih
    exact (ih failed).imp fun u found => ⟨List.mem_cons_of_mem _ found.1, found.2⟩

theorem callAt_defect {opener : Token} (opens : opener.text = "(")
    (failed : callAt source t (opener :: rest) = .error d) : ∃ u ∈ opener :: rest, d.IsAt u := by
  unfold callAt at failed
  dsimp only at failed
  split at failed
  · cases failed
    exact ⟨opener, List.mem_cons_self, rfl, opens⟩
  · next inside close closed =>
    split at failed
    · next split =>
      cases failed
      obtain ⟨-, later, rfl⟩ := takeClosed_eq_some closed
      obtain ⟨u, member, at_⟩ := splitArguments_defect split
      exact ⟨u, by simp [member], at_⟩
    · cases failed

/-- What a step makes of its token. -/
theorem step_locates (proper : t.IsProper) : ∃ outcome taken,
    s.step source names previous t rest = outcome.map (·, taken) ∧ Locates s t rest outcome := by
  have settled : (s.settle previous t).openers = s.openers :=
    congrArg (List.map Prod.fst) (Level.settle s previous t).1
  by_cases call : s.MeetsCall names previous t rest.head?
  · obtain ⟨plain, value, role⟩ := call
    obtain ⟨opener, tail, rfl, opens⟩ := exists_of_opens (mem_names_of_roleOf role).2
    rw [step_plainName rfl value plain, State.name, role]
    dsimp only
    generalize found : callAt source t (opener :: tail) = outcome
    cases outcome with
    | error d =>
      obtain ⟨u, member, at_⟩ := callAt_defect opens found
      exact ⟨.error d, 0, rfl, u, List.mem_cons_of_mem _ member, at_⟩
    | ok made =>
      obtain ⟨c, taken⟩ := made
      refine ⟨.ok _, taken, rfl, ?_⟩
      change (s.settle previous t).openers ⊆ _
      rw [settled]
      exact List.subset_cons_self _ _
  · have located {outcome : Except Defect State}
        (located : Locates (s.settle previous t) t rest outcome) : Locates s t rest outcome := by
      unfold Locates at located ⊢
      rwa [settled] at located
    by_cases mark : t.kind = .substitution
    · by_cases close : t.text = "\x7d"
      · refine ⟨_, 0, ?_, located (locates_leave _ t rest)⟩
        unfold State.step
        dsimp only
        rw [if_pos mark, if_pos close, close]
      · refine ⟨.ok ((s.settle previous t).enter t .substitution), 0, ?_, located fun _ => id⟩
        unfold State.step
        dsimp only
        rw [if_pos mark, if_neg close]
        rfl
    · by_cases opens : t.opens = true
      · refine ⟨.ok ((s.settle previous t).opening previous t), 0,
          step_opener (proper (Or.inl opens)) opens s rest, located ?_⟩
        obtain ⟨scope, outer, -⟩ := opening_level (s.settle previous t) previous t
        have openers : ((s.settle previous t).opening previous t).openers =
            t :: (s.settle previous t).openers := congrArg (List.map Prod.fst) outer
        change State.openers _ ⊆ _
        rw [openers]
        exact List.Subset.refl _
      · have opens := Bool.eq_false_iff.2 opens
        by_cases closes : t.closes = true
        · exact ⟨_, 0, step_closer (proper (Or.inr closes)) opens closes s rest,
            located (locates_closing _ t rest _)⟩
        · obtain ⟨s', step, level⟩ := @step_level source names previous t opens
            (Bool.eq_false_iff.2 closes) mark s rest call
          have openers : s'.openers = s.openers := congrArg (List.map Prod.fst) level.1
          refine ⟨.ok s', 0, step, ?_⟩
          change s'.openers ⊆ _
          rw [openers]
          exact List.subset_cons_self _ _

/-- A run fails at one of its tokens, or at a bracket that was open before. -/
theorem run_defect {all : List Token} (lexed : Lexed tokens) (openers : s.openers ⊆ all)
    (inside : tokens ⊆ all) (failed : s.run source names previous tokens = .error d) :
    ∃ u ∈ all, d.IsAt u := by
  fun_induction State.run source names s previous tokens with
  | case1 => cases failed
  | case2 s previous opener scope outer found =>
    cases failed
    refine ⟨opener, openers ?_, rfl, rfl⟩
    rw [State.openers, found]
    exact List.mem_cons_self
  | case3 s previous t rest d' step =>
    cases failed
    obtain ⟨outcome, taken, made, locates⟩ := @step_locates source names s previous t rest
      (lexed.proper t List.mem_cons_self)
    rw [step] at made
    cases outcome with
    | ok s' => cases made
    | error d' =>
      cases made
      exact locates.imp fun u found => ⟨inside found.1, found.2⟩
  | case4 s previous t rest s' taken step ih =>
    obtain ⟨outcome, taken', made, locates⟩ := @step_locates source names s previous t rest
      (lexed.proper t List.mem_cons_self)
    rw [step] at made
    cases outcome with
    | error d' => cases made
    | ok s' =>
      cases made
      obtain ⟨own, later⟩ := List.cons_subset.1 inside
      refine ih ((lexed.of_suffix (List.suffix_cons t rest)).of_suffix (List.drop_suffix taken rest))
        (fun u member => ?_) (fun u member => later (List.drop_subset _ _ member)) failed
      rcases List.mem_cons.1 (locates member) with rfl | old
      · exact own
      · exact openers old

/-- A script fails at a character that begins no token, or at a significant token. -/
theorem parse_defect (failed : parse names source = .error d) :
    d.offset ∈ tokenStarts source ∧
      ((∃ c, d.cause = .unexpectedCharacter c ∧ source[d.offset]? = some c ∧
          (tokenStarts source).getLast? = some d.offset) ∨
        ∃ tokens, scan source = .ok tokens ∧ ∃ t ∈ significant tokens, d.IsAt t) := by
  cases scanned : scan source with
  | error d' =>
    rw [parse, scanned] at failed
    cases failed
    obtain ⟨last, -, c, cause, here⟩ := startsFrom_of_error scanned
    exact ⟨List.mem_of_getLast? last, Or.inl ⟨c, cause, here, last⟩⟩
  | ok tokens =>
    rw [parse_of_scan scanned] at failed
    cases ran : State.initial.run source names none (significant tokens) with
    | ok f =>
      rw [ran] at failed
      cases failed
    | error d' =>
      rw [ran] at failed
      cases failed
      obtain ⟨t, member, at_⟩ := run_defect (lexed_of_scan scanned) (List.nil_subset _)
        (List.Subset.refl _) ran
      exact ⟨at_.1 ▸ start_mem_tokenStarts scanned member, Or.inr ⟨tokens, rfl, t, member, at_⟩⟩

end Defects

/-! ## Locations -/

/-- Up to the end of a source, the location of an offset counts the line feeds before it and the
characters behind the last of them. It is the one that the table of line starts leads to, as it is
outside the source too. Later offsets have later locations, so no two have the same. What is found in
a script lies at the location of a significant token, and a fault at that of a token or of a
character that begins none. -/
theorem parse_located (names : List String) (source : List Char) :
    (∀ offset ≤ source.length, Location.ofOffset source offset =
      ⟨1 + (source.take offset).count '\n',
        1 + (Location.lastLine (source.take offset)).length⟩) ∧
    (∀ offset, Location.search source offset = Location.ofOffset source offset) ∧
    (∀ first second : Nat, first < second → second ≤ source.length →
      (Location.ofOffset source first).Before (Location.ofOffset source second)) ∧
    (∀ first second : Nat, first ≤ source.length → second ≤ source.length →
      Location.ofOffset source first = Location.ofOffset source second → first = second) ∧
    (∀ start ∈ tokenStarts source, start < source.length) ∧
    (∀ tree, parse names source = .ok tree → ∀ p, tree.HasPart p →
      ∃ tokens, scan source = .ok tokens ∧ ∃ t ∈ significant tokens, p.BeginsWith t ∧
        t.start ∈ tokenStarts source ∧ p.location source = Location.ofOffset source t.start) ∧
    ∀ d, parse names source = .error d →
      d.offset ∈ tokenStarts source ∧
      ((∃ c, d.cause = .unexpectedCharacter c ∧ source[d.offset]? = some c ∧
          (tokenStarts source).getLast? = some d.offset) ∨
        ∃ tokens, scan source = .ok tokens ∧ ∃ t ∈ significant tokens, d.IsAt t) ∧
      ∀ file, let fault := d.fault source file
        (⟨fault.line, fault.column⟩ : Location) = Location.ofOffset source d.offset := by
  refine ⟨fun offset inside => ?_, Location.search_eq_ofOffset source,
    fun first second => Location.ofOffset_before, fun first second => Location.ofOffset_inj,
    fun start => mem_tokenStarts, fun tree parsed p part => ?_, fun d failed => ?_⟩
  · rw [Location.ofOffset_of_le inside, Location.after_eq]
  · obtain ⟨tokens, scanned, t, member, begins⟩ := part.located parsed
    refine ⟨tokens, scanned, t, member, begins, start_mem_tokenStarts scanned member, ?_⟩
    rw [Part.location, begins.1]
  · obtain ⟨start, about⟩ := parse_defect failed
    exact ⟨start, about, fun file => rfl⟩

/-- A call on the second line with a literal in it, and one without its argument. -/
theorem parse_located_of_secondLine :
    let literal : Argument := ⟨5, 8, "'a'", some "a"⟩
    let call : Call := ⟨⟨"f", 3, false⟩, 9, [literal]⟩
    let tree : Tree := ⟨"x;\nf('a')".toList, [⟨"x", 0, false⟩], [call]⟩
    parse ["f"] "x;\nf('a')".toList = .ok tree ∧
      (∃ t : Token, (Part.literal call literal).BeginsWith t ∧
        (Part.literal call literal).location tree.source = .ofOffset tree.source t.start) ∧
      Location.ofOffset tree.source 5 = ⟨2, 3⟩ ∧
      parse ["f"] "x;\nf(,)".toList = .error ⟨.emptyArgument, 5⟩ ∧
      5 ∈ tokenStarts "x;\nf(,)".toList := by
  intro literal call tree
  have parsed : parse ["f"] "x;\nf('a')".toList = .ok tree := by decide +kernel
  have failed : parse ["f"] "x;\nf(,)".toList = .error ⟨.emptyArgument, 5⟩ := by decide +kernel
  have part : tree.HasPart (.literal call literal) :=
    .literal (List.mem_singleton.2 rfl) (List.mem_singleton.2 rfl) rfl
  obtain ⟨-, -, -, -, -, parts, -⟩ := parse_located ["f"] "x;\nf('a')".toList
  obtain ⟨-, -, -, -, -, -, defects⟩ := parse_located ["f"] "x;\nf(,)".toList
  obtain ⟨tokens, -, t, -, begins, -, location⟩ := parts tree parsed _ part
  exact ⟨parsed, ⟨t, begins, location⟩, by decide +kernel, failed, (defects _ failed).1⟩

end Folio.Script
