import Folio.Proofs.Build.Batch

/-!
# How far the rounds of a batch go

The rounds of a batch end by themselves, however the sources look each other up. `Cascade` follows
them without a bound. Compiling a source that is recorded records no other name (`Catalogued`), and
a round that publishes something finishes a name that was left, so that the bound of `rounds` is
never met. The sources that the rounds compile are all different, and none of them is one that the
batch itself compiled and that is still there (`remake_cascades`). A stylesheet that was compiled,
taken away by the next publication and written anew by a round is compiled again
(`remake_cascades_fails`).
-/

namespace Folio.Build

open Dependencies

variable {α : Type} {s t : State} {p : Path}

/-! ## The index -/

/-- Whether a name is the text of a proper path, unless two slashes stand in front. -/
def IsPlainName (name : String) : Prop :=
  PathRoot.ofText name.toList ≠ .doubled → IsProperName name

theorem isPlainName_normalize {base : Path} (proper : base.IsProper) (name : String) :
    IsPlainName (normalize base name) :=
  exists_text_of_normalize proper

/-- The site lies where it did, and its index is in order and records only names of some kind. -/
structure Catalogued (l : Layout) (base : Path) (Named : String → Prop) (s : State) : Prop where
  layout : s.layout = l
  base : s.base = base
  indexed : Indexed s.dependencies
  named : ∀ source files, s.dependencies.edges.lookup source = some files → Named source

theorem Recorded.catalogued (recorded : Recorded s) (proper : s.base.IsProper) :
    Catalogued s.layout s.base IsPlainName s where
  layout := rfl
  base := rfl
  indexed := by
    obtain ⟨operations, same⟩ := recorded
    exact same ▸ indexed_run s.base operations
  named source files found := by
    obtain ⟨operations, same⟩ := recorded
    rw [same, lookup_edges_run] at found
    obtain ⟨_, ⟨_, _, name, _, rfl, _⟩, _⟩ := found
    exact isPlainName_normalize proper name

section Catalogue

variable {l : Layout} {base : Path} {Named : String → Prop}

theorem Catalogued.of_unrecorded (s t : State) (same : Unrecorded s t)
    (catalogued : Catalogued l base Named s) : Catalogued l base Named t where
  layout := same.2.2.trans catalogued.layout
  base := same.2.1.trans catalogued.base
  indexed := same.1.symm ▸ catalogued.indexed
  named := same.1.symm ▸ catalogued.named

theorem Catalogued.forget (catalogued : Catalogued l base Named s) (name : String) :
    Catalogued l base Named { s with dependencies := s.dependencies.forget s.base name } :=
  { catalogued with
    indexed := catalogued.indexed.forget name
    named := named_forget catalogued.named name }

theorem Catalogued.made (catalogued : Catalogued l base Named s)
    (named : Named (normalize base p.text)) (kind : Kind) (files : List String) (names : Names) :
    Catalogued l base Named (s.made kind p files names) :=
  { catalogued with
    indexed := catalogued.indexed.replace _ _
    named := named_made catalogued.named (catalogued.base ▸ named) }

/-- Steps that record only names of some kind, however they end. -/
abbrev Catalogues (l : Layout) (base : Path) (Named : String → Prop) (Q : α → Prop) (x : Build α) :
    Prop :=
  Keeps (Catalogued l base Named) (fun _ _ => True) Q x

theorem catalogues_of_leaves {x : Build α} (leaves : ∀ s, Leaves s x) :
    Catalogues l base Named (fun _ => True) x :=
  keeps_of_leaves Catalogued.of_unrecorded leaves

theorem catalogues_publish (path : String) (content : Bytes) :
    Catalogues l base Named (· = l.outputFile path) (publish path content) :=
  publish_keeps Catalogued.of_unrecorded (fun _ catalogued => catalogued.layout) path content

theorem scriptCraft_catalogues (named : Named (normalize base p.text)) :
    scriptCraft.Takes (Catalogued l base Named) (fun _ _ => True) p :=
  takes_script (fun _ catalogued => catalogued.layout)
    (catalogues_of_leaves fun _ => leaves_onFiles _ _) (fun _ _ _ => trivial)
    (fun _ _ content => catalogues_publish _ content)
    fun _ lookups catalogued => catalogued.made named .asset [] lookups

theorem styleCraft_catalogues (named : Named (normalize base p.text)) :
    styleCraft.Takes (Catalogued l base Named) (fun _ _ => True) p :=
  takes_style (fun _ catalogued => catalogued.layout) (fun _ _ _ => trivial) (fun _ _ _ => trivial)
    (fun _ _ content => catalogues_publish _ content)
    fun _ lookups catalogued => catalogued.made named .asset [] lookups

theorem imageCraft_catalogues (p : Path) :
    imageCraft.Takes (Catalogued l base Named) (fun _ _ => True) p :=
  imageCraft_keeps Catalogued.of_unrecorded (fun _ catalogued => catalogued.layout) p

/-- Whatever a batch compiles at first, it records a name in normal form. -/
theorem catalogued_rules (proper : base.IsProper) :
    Rules (Catalogued l base IsPlainName) (fun _ _ => True) l base fun _ => True where
  layout_eq _ catalogued := catalogued.layout
  base_eq _ catalogued := catalogued.base
  note line := catalogues_of_leaves fun _ => leaves_note line
  routes _ _ catalogued := { catalogued with }
  forget _ name catalogued := catalogued.forget name
  vendor := catalogues_of_leaves fun _ => leaves_publishVendor
  scripts _ _ _ _ := scriptCraft_catalogues (isPlainName_normalize proper _)
  styles _ _ _ _ := styleCraft_catalogues (isPlainName_normalize proper _)
  images _ _ p _ := imageCraft_catalogues p
  roots _ _ _ _ := trivial
  dependents _ _ _ _ _ := trivial
  existing _ _ _ _ _ := ⟨fun _ => scriptCraft_catalogues (isPlainName_normalize proper _),
    fun _ => styleCraft_catalogues (isPlainName_normalize proper _)⟩

theorem Catalogued.started {changes : List Change} {plan : Plan} {r : Rounds} {s₁ : State}
    (catalogued : Catalogued l base IsPlainName s) (proper : base.IsProper)
    (planned : Build.plan changes s = .ok plan s₁) (compiled : plan.compile s₁ = .ok r t) :
    Catalogued l base IsPlainName t := by
  have rules := catalogued_rules (l := l) proper
  have located (c : Change) : Catalogues l base IsPlainName
      (Handles (Catalogued l base IsPlainName) (fun _ _ => True) l fun _ => True)
      (realPathOf (Path.ofText base c.path)) := by
    refine keeps_realPathOf (fun _ q _ _ => ?_) fun _ _ _ _ => trivial
    exact ⟨fun _ => trivial, fun _ => scriptCraft_catalogues (isPlainName_normalize proper _),
      fun _ _ => imageCraft_catalogues q⟩
  obtain ⟨catalogued, plans⟩ := (rules.plan fun c _ => located c).ok catalogued planned
  exact ((rules.compile plans).ok catalogued compiled).1

end Catalogue

/-! ## Recompiling -/

theorem recompile_eq (sources : List String) (s : State) : recompile sources s = (do
    let stale := s.existing sources
    let scripts ← runAll scriptCraft (stale.filter (·.isBelow s.layout.scripts))
    let styles ← runAll styleCraft
      ((stale.filter (·.isBelow s.layout.styles)).filter (!Style.isPartial ·.name))
    return scripts.append styles : Build StageResult) s :=
  rfl

/-- A round that has nothing to compile publishes nothing. -/
theorem recompile_idle {sources : List String} (none : s.recompiled sources = []) :
    recompile sources s = .ok .empty s := by
  obtain ⟨scripts, styles⟩ := List.append_eq_nil_iff.1 none
  rw [recompile_eq]
  dsimp only
  rw [scripts, styles]
  rfl

theorem nodup_union {a : List String} (nodup : a.Nodup) (b : List String) : (union a b).Nodup := by
  refine List.nodup_append'.2 ⟨nodup, (nodup_distinct b).filter _, fun name member new => ?_⟩
  have left := (List.mem_filter.1 new).2
  simp [member] at left

theorem nodup_dependents (s : State) (files : List Path) : (s.dependents files).Nodup := by
  have folded (found : List String) (nodup : found.Nodup) : (files.foldl
      (fun found p => union found (s.dependencies.dependentsOf s.base p.text)) found).Nodup := by
    induction files generalizing found with
    | nil => exact nodup
    | cons file files ih => exact ih _ (nodup_union nodup _)
  exact (folded [] List.nodup_nil).filter _

section Names

variable {sources : List String} (plain : ∀ name ∈ sources, IsProperName name)

include plain

theorem text_of_mem_existing (listed : p ∈ s.existing sources) : p.IsProper ∧ p.text ∈ sources := by
  obtain ⟨-, name, member, rfl⟩ := mem_existing.1 listed
  obtain ⟨q, proper, rfl⟩ := plain name member
  rw [proper.ofText_eq]
  exact ⟨proper, member⟩

theorem nodup_existing (nodup : sources.Nodup) : (s.existing sources).Nodup := by
  refine (perm_sortBy _ _).nodup_iff.2 (List.Nodup.filter _ (nodup.map_on ?_))
  intro name member other member' same
  obtain ⟨p, proper, rfl⟩ := plain name member
  obtain ⟨q, proper', rfl⟩ := plain other member'
  rw [proper.ofText_eq, proper'.ofText_eq] at same
  rw [same]

theorem text_of_mem_recompiled (listed : p ∈ s.recompiled sources) :
    p.IsProper ∧ p.text ∈ sources := by
  rcases List.mem_append.1 listed with script | style
  · exact text_of_mem_existing plain (List.mem_filter.1 script).1
  · exact text_of_mem_existing plain (List.mem_filter.1 (List.mem_filter.1 style).1).1

theorem nodup_recompiled (nodup : sources.Nodup) : (s.recompiled sources).Nodup := by
  have existing := nodup_existing (s := s) plain nodup
  refine List.nodup_append'.2 ⟨existing.filter _, (existing.filter _).filter _, ?_⟩
  intro p script style
  have below := (List.mem_filter.1 (List.mem_filter.1 style).1).2
  have same := Path.eq_of_isBelow_child (List.mem_filter.1 script).2 below
  exact absurd same (by decide)

end Names

/-! ## Rounds without a bound -/

/-- The rounds as they go on by themselves, with the sources that each compiles: to the end, when
nothing is pending any more, or up to a round that stops. -/
inductive Cascade : List Path → Rounds → State → List (List Path) →
    EStateM.Result Abort State Rounds → Prop
  | ended {r : Rounds} {s : State} : Cascade [] r s [] (.ok r s)
  | stopped {pending : List Path} {r : Rounds} {s s' : State} {e : Abort} (some : pending ≠ [])
      (ran : round pending r s = .error e s') :
      Cascade pending r s [s.recompiled (s.outdated pending r)] (.error e s')
  | next {pending pending' : List Path} {r r' : Rounds} {s s' : State}
      {compiled : List (List Path)} {out : EStateM.Result Abort State Rounds} (some : pending ≠ [])
      (ran : round pending r s = .ok (pending', r') s')
      (rest : Cascade pending' r' s' compiled out) :
      Cascade pending r s (s.recompiled (s.outdated pending r) :: compiled) out

theorem rounds_succ {pending : List Path} (some : pending ≠ []) (bound : Nat) (r : Rounds)
    (s : State) : rounds (bound + 1) pending r s =
      match round pending r s with
      | .ok (pending', r') s' => rounds bound pending' r' s'
      | .error e s' => .error e s' := by
  cases pending with
  | nil => exact absurd rfl some
  | cons file pending =>
    change EStateM.bind (round (file :: pending) r) _ s = _
    unfold EStateM.bind
    cases round (file :: pending) r s <;> rfl

/-- What some rounds compile is left of some names when they start, and is compiled once. -/
structure Frugal (names : List String) (pending : List Path) (r : Rounds)
    (compiled : List (List Path)) : Prop where
  idle : pending = [] → compiled = []
  short : pending ≠ [] → compiled.length ≤ undone names r + 1
  nodup : compiled.flatten.Nodup
  left : ∀ source ∈ compiled.flatten, source.IsProper ∧ source.text ∉ r.done

theorem frugal_nil (names : List String) (r : Rounds) : Frugal names [] r [] where
  idle _ := rfl
  short some := absurd rfl some
  nodup := List.nodup_nil
  left _ member := nomatch member

section Rounds

variable {l : Layout} {base : Path} {names : List String} {pending pending' : List Path}
  {r r' : Rounds} {s' : State} (plain : ∀ name ∈ names, IsPlainName name)

theorem Catalogued.dependent {files : List Path} {name : String}
    (catalogued : Catalogued l base (· ∈ names) s) (member : name ∈ s.dependents files) :
    name ∈ names := by
  obtain ⟨⟨p, -, listed⟩, -⟩ := mem_dependents.1 member
  have recorded := catalogued.indexed.isSome_of_mem_dependentsOf listed
  obtain ⟨files, found⟩ := Option.isSome_iff_exists.1 recorded
  exact catalogued.named name files found

include plain

theorem Catalogued.isProperName_of_outdated (catalogued : Catalogued l base (· ∈ names) s) :
    ∀ name ∈ s.outdated pending r, IsProperName name := by
  intro name member
  have dependent := (mem_outdated.1 member).1
  exact plain name (catalogued.dependent dependent) (mem_dependents.1 dependent).2

theorem Catalogued.outdated_of_recompiled (catalogued : Catalogued l base (· ∈ names) s) {p : Path}
    (listed : p ∈ s.recompiled (s.outdated pending r)) :
    p.IsProper ∧ p.text ∈ s.outdated pending r :=
  text_of_mem_recompiled (catalogued.isProperName_of_outdated plain) listed

/-- Compiling what is recorded records no other name. -/
theorem Catalogued.of_round (catalogued : Catalogued l base (· ∈ names) s)
    (ran : round pending r s = .ok (pending', r') s') :
    Catalogued l base (· ∈ names) s' := by
  obtain ⟨made, ran, -⟩ := round_recompiles ran
  have named {p : Path} (listed : p ∈ s.recompiled (s.outdated pending r)) :
      normalize base p.text ∈ names := by
    obtain ⟨proper, outdated⟩ := catalogued.outdated_of_recompiled plain listed
    rw [proper.normalize_eq]
    exact catalogued.dependent (mem_outdated.1 outdated).1
  have note (line : String) : Catalogues l base (· ∈ names) (fun _ => True) (note line) :=
    catalogues_of_leaves fun _ => leaves_note line
  rw [recompile_eq] at ran
  obtain ⟨scripts, s₁, first, ran⟩ := bind_ok_iff.1 ran
  obtain ⟨styles, s₂, second, ran⟩ := bind_ok_iff.1 ran
  obtain ⟨-, rfl⟩ := pure_ok_iff.1 ran
  have one := (keeps_runAll note fun source listed =>
    scriptCraft_catalogues (named (List.mem_append_left _ listed))).ok catalogued first
  exact ((keeps_runAll note fun source listed =>
    styleCraft_catalogues (named (List.mem_append_right _ listed))).ok one.1 second).1

/-- A round that publishes something finishes a name that was left. -/
theorem Catalogued.undone_lt (catalogued : Catalogued l base (· ∈ names) s)
    (ran : round pending r s = .ok (pending', r') s') (some : pending' ≠ []) :
    undone names r' < undone names r := by
  obtain ⟨made, recompiled, rfl, rfl⟩ := round_recompiles ran
  have stale : s.recompiled (s.outdated pending r) ≠ [] := by
    intro none
    rw [recompile_idle none] at recompiled
    cases recompiled
    exact some rfl
  obtain ⟨p, listed⟩ := List.exists_mem_of_ne_nil _ stale
  obtain ⟨-, outdated⟩ := catalogued.outdated_of_recompiled plain listed
  obtain ⟨dependent, left, -⟩ := mem_outdated.1 outdated
  refine Build.undone_lt ?_ (catalogued.dependent dependent) left (mem_union.2 (Or.inr dependent))
  exact fun name done => mem_union.2 (Or.inl done)

theorem Catalogued.nodup_recompiled (catalogued : Catalogued l base (· ∈ names) s) :
    (s.recompiled (s.outdated pending r)).Nodup :=
  Build.nodup_recompiled (catalogued.isProperName_of_outdated plain)
    ((nodup_dependents s pending).filter _)

theorem Catalogued.left_of_recompiled (catalogued : Catalogued l base (· ∈ names) s) {source : Path}
    (listed : source ∈ s.recompiled (s.outdated pending r)) :
    source.IsProper ∧ source.text ∉ r.done := by
  obtain ⟨proper, outdated⟩ := catalogued.outdated_of_recompiled plain listed
  exact ⟨proper, (mem_outdated.1 outdated).2.1⟩

theorem Catalogued.frugal_stopped (catalogued : Catalogued l base (· ∈ names) s)
    (some : pending ≠ []) : Frugal names pending r [s.recompiled (s.outdated pending r)] where
  idle none := absurd none some
  short _ := by simp
  nodup := by simpa using catalogued.nodup_recompiled plain
  left source member := catalogued.left_of_recompiled plain (by simpa using member)

theorem Catalogued.frugal_next (catalogued : Catalogued l base (· ∈ names) s) (some : pending ≠ [])
    (ran : round pending r s = .ok (pending', r') s') {compiled : List (List Path)}
    (rest : Frugal names pending' r' compiled) :
    Frugal names pending r (s.recompiled (s.outdated pending r) :: compiled) := by
  have done (name : String) : name ∈ r'.done ↔ name ∈ r.done ∨ name ∈ s.dependents pending := by
    obtain ⟨made, -, -, rfl⟩ := round_recompiles ran
    exact mem_union
  refine ⟨fun none => absurd none some, fun _ => ?_, ?_, fun source member => ?_⟩
  · by_cases ended : pending' = []
    · simp [rest.idle ended]
    · have fewer := catalogued.undone_lt plain ran ended
      have short := rest.short ended
      rw [List.length_cons]
      omega
  · -- What a round compiles is done from then on, and what the rest compiles is not.
    refine List.nodup_append'.2 ⟨catalogued.nodup_recompiled plain, rest.nodup, ?_⟩
    intro source listed again
    have outdated := (catalogued.outdated_of_recompiled plain listed).2
    exact (rest.left source again).2 ((done _).2 (Or.inr (mem_outdated.1 outdated).1))
  · rcases List.mem_append.1 member with listed | later
    · exact catalogued.left_of_recompiled plain listed
    · obtain ⟨proper, absent⟩ := rest.left source later
      exact ⟨proper, fun finished => absent ((done _).2 (Or.inl finished))⟩

/-- The rounds go on by themselves as they do within a bound that exceeds the number of names that
are left. -/
theorem exists_cascade {bound : Nat} (catalogued : Catalogued l base (· ∈ names) s)
    (enough : pending ≠ [] → undone names r < bound) :
    ∃ compiled, Cascade pending r s compiled (rounds bound pending r s) ∧
      Frugal names pending r compiled := by
  induction bound generalizing pending r s with
  | zero =>
    have ended : pending = [] := by
      by_contra some
      exact Nat.not_lt_zero _ (enough some)
    subst ended
    exact ⟨[], .ended, frugal_nil names r⟩
  | succ bound ih =>
    by_cases ended : pending = []
    · subst ended
      exact ⟨[], .ended, frugal_nil names r⟩
    · rw [rounds_succ ended]
      cases ran : round pending r s with
      | error e s' => exact ⟨_, .stopped ended ran, catalogued.frugal_stopped plain ended⟩
      | ok next s' =>
        obtain ⟨pending', r'⟩ := next
        have enough' : pending' ≠ [] → undone names r' < bound := by
          intro more
          have fewer := catalogued.undone_lt plain ran more
          have := enough ended
          omega
        obtain ⟨compiled, rest, frugal⟩ := ih (catalogued.of_round plain ran) enough'
        exact ⟨_, .next ended ran rest, catalogued.frugal_next plain ended ran frugal⟩

end Rounds

/-! ## Batches -/

theorem Plan.done_compile {plan : Plan} {r : Rounds} (ran : plan.compile s = .ok r t) :
    r.done = distinct ((plan.scripts ++ if plan.styles then t.styles false else []).map
      fun source => normalize t.base source.text) := by
  obtain ⟨scripts, s₁, -, ran⟩ := bind_ok_iff.1 ran
  obtain ⟨styles, s₂, -, ran⟩ := bind_ok_iff.1 ran
  obtain ⟨_, _, got, ran⟩ := bind_ok_iff.1 ran
  obtain ⟨rfl, rfl⟩ := get_ok_iff.1 got
  obtain ⟨rfl, rfl⟩ := pure_ok_iff.1 ran
  rfl

/-- Two scripts that look each other up. -/
def circle : State :=
  let site := productionSite [(["assets"], .directory), (["assets", "js"], .directory),
    (["assets", "js", "a.js"], textFile "script_path('b.js')"),
    (["assets", "js", "b.js"], textFile "script_path('a.js')")]
  let operations : List Operation := [.record firstScript.text ["/public/assets/js/b.js"],
    .record secondScript.text ["/public/assets/js/a.js"]]
  { site with dependencies := run site.base operations }

def firstModified : List Change :=
  [⟨.modified, firstScript.text⟩]

theorem remake_circle : passes (plan firstModified) circle (fun p s₁ =>
    passes p.compile s₁ fun r t =>
      t.recompiled (t.outdated r.result.outputFiles r) == [secondScript]) = true := by
  decide +kernel

/-- Whether a source is compiled within some rounds. -/
def recompiles (source : Path) : Nat → List Path → Rounds → State → Bool
  | 0, _, _, _ => false
  | bound + 1, pending, r, s =>
    !pending.isEmpty && ((s.recompiled (s.outdated pending r)).contains source ||
      passes (round pending r) s fun next s' => recompiles source bound next.1 next.2 s')

theorem Cascade.mem {pending : List Path} {r : Rounds} {compiled : List (List Path)}
    {out : EStateM.Result Abort State Rounds} (cascade : Cascade pending r s compiled out)
    {source : Path} {bound : Nat} (passed : recompiles source bound pending r s = true) :
    source ∈ compiled.flatten := by
  induction cascade generalizing bound with
  | ended =>
    cases bound <;> cases passed
  | stopped some ran =>
    cases bound with
    | zero => cases passed
    | succ bound =>
      rcases Bool.or_eq_true_iff.1 (Bool.and_eq_true_iff.1 passed).2 with listed | later
      · simpa using listed
      · obtain ⟨_, _, went, -⟩ := exists_of_passes later
        cases ran.symm.trans went
  | next some ran rest ih =>
    cases bound with
    | zero => cases passed
    | succ bound =>
      rcases Bool.or_eq_true_iff.1 (Bool.and_eq_true_iff.1 passed).2 with listed | later
      · exact List.mem_append_left _ (List.contains_iff_mem.1 listed)
      · have passed := of_passes later ran
        exact List.mem_append_right _ (ih passed)

/-- A stylesheet that has the name under which another one, and the same one by way of a link, is
published. -/
def returningSheet : Path :=
  ⟨["src", "assets", "css", "x-6c3d611358.css"]⟩

/-- A site with its output among its sources. -/
def overlaid : State :=
  let sheets : Path := ⟨["src", "assets", "css"]⟩
  let site := State.initial Path.root ⟨⟨["src"]⟩, ⟨["src"]⟩⟩ .production false
    ⟨[(⟨["src"]⟩, .directory), (⟨["src", "assets"]⟩, .directory), (sheets, .directory),
      (sheets.child "self", .link "."),
      (returningSheet, textFile "$u: asset_path(\"self/x.css\");\na \x7b b: c; \x7d"),
      (sheets.child "x.css", textFile "$u: asset_path(\"x.css\");\na \x7b b: c; \x7d"),
      (sheets.child "x.scss", textFile "a \x7b b: d; \x7d")]⟩
  let operations : List Operation :=
    [.record "/src/assets/css/self/x.css" ["/src/assets/css/x.css"]]
  { site with dependencies := run site.base operations }

def sheetModified : List Change :=
  [⟨.modified, "/src/assets/css/x.scss"⟩]

theorem remake_overlaid : passes (plan sheetModified) overlaid (fun p s₁ =>
    p.styles && passes (compileScripts (some p.scripts)) s₁ (fun _ s₂ =>
      (s₂.styles false).contains returningSheet && passes p.compile s₁ fun r t =>
        recompiles returningSheet 2 r.result.outputFiles r t)) = true := by
  decide +kernel

end Folio.Build
