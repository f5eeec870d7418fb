import Folio.Proofs.Dependency
import Folio.Proofs.FileTree.Resolve

/-!
# Normal forms as keys

`normalize` gives a normal form (`isNormal_normalize`): the text of a proper path, or that text
with one more slash in front. Seen from any directory a normal form is its own
(`IsNormal.normalize_eq`). So the names that an index gives out are keys of it, and all the texts
of one normal form are the same name to it (`normalize_canonical`).
-/

namespace Folio

/-! ## Normal forms -/

/-- The text of a proper path, with at most one slash more in front. -/
def IsNormal (s : String) : Prop :=
  ∃ p : Path, p.IsProper ∧ (s = p.text ∨ s = "/" ++ p.text)

/-- A slash more in front of a text adds no segment. -/
theorem pathSegments_slash_append (s : String) : pathSegments ("/" ++ s) = pathSegments s := by
  simp [pathSegments, Text.splitOn]

theorem collapse_isProper {segments : List String} (plain : ∀ s ∈ segments, IsSegment s) :
    (Path.mk (Path.collapse segments)).IsProper := by
  intro segment member
  obtain ⟨kept, other⟩ := Path.mem_collapse member
  exact ⟨plain segment kept, other⟩

/-- A normal form is that of a proper path, which has two slashes in front if the text has. -/
theorem normalize_eq_text {base : Path} (segmented : base.IsSegmented) (s : String) :
    ∃ p : Path, p.IsProper ∧
      normalize base s = (if PathRoot.ofText s.toList = .doubled then "/" ++ p.text else p.text) := by
  let start := if PathRoot.ofText s.toList = .relative then base.segments else []
  have plain : ∀ segment ∈ start ++ pathSegments s, IsSegment segment := by
    intro segment member
    rcases List.mem_append.1 member with first | written
    · by_cases relative : PathRoot.ofText s.toList = .relative
      · exact segmented segment (by simpa only [start, if_pos relative] using first)
      · simp only [start, if_neg relative, List.not_mem_nil] at first
    · exact isSegment_of_mem written
  refine ⟨⟨Path.collapse (start ++ pathSegments s)⟩, collapse_isProper plain, ?_⟩
  change (if PathRoot.ofText s.toList = .doubled then "//" else "/") ++ joinSegments _ = _
  split
  · rw [Path.text, ← String.append_assoc]
    rfl
  · rfl

theorem isNormal_normalize {base : Path} (segmented : base.IsSegmented) (s : String) :
    IsNormal (normalize base s) := by
  obtain ⟨p, proper, text⟩ := normalize_eq_text segmented s
  refine ⟨p, proper, ?_⟩
  split at text
  · exact Or.inr text
  · exact Or.inl text

/-- Two leading slashes stay two; any other number becomes one. -/
theorem root_normalize {base : Path} (segmented : base.IsSegmented) (s : String) :
    PathRoot.ofText (normalize base s).toList =
      if PathRoot.ofText s.toList = .doubled then .doubled else .absolute := by
  obtain ⟨p, proper, text⟩ := normalize_eq_text segmented s
  rw [text]
  split
  · exact Path.root_ofText_slash proper.plain
  · exact Path.root_ofText proper.plain

/-- A normal form is its own normal form, whatever directory it is seen from. -/
theorem IsNormal.normalize_eq {s : String} (normal : IsNormal s) (base : Path) :
    normalize base s = s := by
  obtain ⟨p, proper, rfl | rfl⟩ := normal
  · exact proper.normalize_eq base
  · have written : Written.ofText ("/" ++ p.text) = ⟨.doubled, p.segments⟩ := by
      rw [Written.ofText, Path.root_ofText_slash proper.plain, pathSegments_slash_append,
        Path.pathSegments_text proper.plain]
    have doubled : normalize base ("/" ++ p.text) = "//" ++ joinSegments (Path.collapse p.segments) := by
      rw [normalize, written]
      rfl
    rw [doubled, Path.collapse_eq_self proper.straight]
    rw [Path.text, ← String.append_assoc]
    rfl

/-! ## Names of one normal form -/

namespace Dependencies

/-- The same operation, on names of the same normal forms. -/
inductive Operation.Alike (base : Path) : Operation → Operation → Prop
  | record {root root' : String} {files files' : List String}
      (same : normalize base root = normalize base root')
      (alike : files.Forall₂ (fun file file' => normalize base file = normalize base file') files') :
      Alike base (.record root files) (.record root' files')
  | forget {root root' : String} (same : normalize base root = normalize base root') :
      Alike base (.forget root) (.forget root')
  | clear : Alike base .clear .clear

theorem map_normalize_eq {base : Path} {files files' : List String}
    (alike : files.Forall₂ (fun file file' => normalize base file = normalize base file') files') :
    files.map (normalize base) = files'.map (normalize base) := by
  induction alike with
  | nil => rfl
  | cons same _ ih => rw [List.map_cons, List.map_cons, same, ih]

theorem apply_alike {base : Path} {operation operation' : Operation}
    (alike : operation.Alike base operation') (d : Dependencies) :
    d.apply base operation = d.apply base operation' := by
  cases alike with
  | record same alike => simp only [apply, record, same, map_normalize_eq alike]
  | forget same => simp only [apply, forget, record, same]
  | clear => rfl

/-- Alike operations make one index, from any index on. -/
theorem foldl_alike {base : Path} {operations operations' : List Operation}
    (alike : operations.Forall₂ (Operation.Alike base) operations') (d : Dependencies) :
    operations.foldl (apply base) d = operations'.foldl (apply base) d := by
  induction alike generalizing d with
  | nil => rfl
  | cons same _ ih => rw [List.foldl_cons, List.foldl_cons, apply_alike same, ih]

/-! ## Answers -/

section Answers

variable {base : Path} {operations : List Operation} {file root : String}

/-- A dependency is stored between two names in normal form. -/
theorem isNormal_of_mem_edges (segmented : base.IsSegmented)
    (edge : file ∈ related (run base operations).edges root) : IsNormal root ∧ IsNormal file := by
  obtain ⟨-, files, last, listed⟩ := (mem_edges_run base operations root file).1 edge
  obtain ⟨-, -, name, -, rfl, -⟩ := last
  obtain ⟨written, -, rfl⟩ := List.mem_map.1 listed
  exact ⟨isNormal_normalize segmented name, isNormal_normalize segmented written⟩

/-- A dependent is a name that can be asked about in turn. -/
theorem answers_dependentsOf (segmented : base.IsSegmented)
    (listed : root ∈ (run base operations).dependentsOf base file) :
    IsNormal root ∧ normalize base file ∈ (run base operations).dependenciesOf base root := by
  have edge := ((indexed_run base operations).reverse _ _).1 listed
  have normal := (isNormal_of_mem_edges segmented edge).1
  refine ⟨normal, ?_⟩
  rwa [dependenciesOf, normal.normalize_eq base]

theorem answers_dependenciesOf (segmented : base.IsSegmented)
    (listed : file ∈ (run base operations).dependenciesOf base root) :
    IsNormal file ∧ normalize base root ∈ (run base operations).dependentsOf base file := by
  have normal := (isNormal_of_mem_edges segmented listed).2
  refine ⟨normal, ?_⟩
  rw [dependentsOf, normal.normalize_eq base]
  exact ((indexed_run base operations).reverse _ _).2 listed

end Answers

/-- Seen from a directory each text has one normal form: absolute, of proper segments, with two
leading slashes if and only if the text has exactly two, and its own normal form from every
directory. An index takes a name for its normal form only: names of the same normal forms make the
same index and get the same answers, over single operations on any index and over whole histories,
and the names in the answers are normal forms that can be asked about in turn. -/
theorem normalize_canonical {base : Path} (segmented : base.IsSegmented) :
    (∀ s, IsNormal (normalize base s) ∧
      PathRoot.ofText (normalize base s).toList =
        if PathRoot.ofText s.toList = .doubled then .doubled else .absolute) ∧
    (∀ other s, normalize other (normalize base s) = normalize base s) ∧
    (∀ d name name', normalize base name = normalize base name' →
      (∀ files files', files.Forall₂ (fun file file' => normalize base file = normalize base file')
        files' → record base d name files = record base d name' files') ∧
      forget base d name = forget base d name' ∧
      dependentsOf base d name = dependentsOf base d name' ∧
      dependenciesOf base d name = dependenciesOf base d name' ∧
      contains base d name = contains base d name') ∧
    (∀ operations operations', operations.Forall₂ (Operation.Alike base) operations' →
      run base operations = run base operations') ∧
    (∀ operations file root, root ∈ (run base operations).dependentsOf base file →
      IsNormal root ∧ normalize base file ∈ (run base operations).dependenciesOf base root) ∧
    ∀ operations root file, file ∈ (run base operations).dependenciesOf base root →
      IsNormal file ∧ normalize base root ∈ (run base operations).dependentsOf base file := by
  refine ⟨?_, ?_, ?_, ?_, ?_, ?_⟩
  · exact fun s => ⟨isNormal_normalize segmented s, root_normalize segmented s⟩
  · exact fun other s => (isNormal_normalize segmented s).normalize_eq other
  · intro d name name' same
    refine ⟨fun files files' alike => apply_alike (.record same alike) d,
      apply_alike (.forget same) d, ?_, ?_, ?_⟩
    · rw [dependentsOf, dependentsOf, same]
    · rw [dependenciesOf, dependenciesOf, same]
    · rw [contains, contains, same]
  · exact fun operations operations' alike => foldl_alike alike empty
  · exact fun operations file root => answers_dependentsOf segmented
  · exact fun operations root file => answers_dependenciesOf segmented

/-- Two spellings of one page, seen from the project. -/
theorem normalize_canonical_of_project :
    (Path.mk ["project"]).IsSegmented ∧
      normalize ⟨["project"]⟩ "views/./about/../index.html" =
        normalize ⟨["project"]⟩ "/project//views/index.html" ∧
      run ⟨["project"]⟩ [.record "views/./about/../index.html" ["views/nav.html"]] =
        run ⟨["project"]⟩ [.record "/project//views/index.html" ["/views/../project/views/nav.html"]] := by
  have proper : (Path.mk ["project"]).IsProper := by decide
  have segmented := proper.segmented
  have page : normalize ⟨["project"]⟩ "views/./about/../index.html" =
      normalize ⟨["project"]⟩ "/project//views/index.html" := by decide
  have part : normalize ⟨["project"]⟩ "views/nav.html" =
      normalize ⟨["project"]⟩ "/views/../project/views/nav.html" := by decide
  refine ⟨segmented, page, (normalize_canonical segmented).2.2.2.1 _ _ ?_⟩
  exact .cons (.record page (.cons part .nil)) .nil

end Dependencies

end Folio
