import Folio.Path
import Folio.Text.Case

/-!
# Paths

A proper path has segments that a path text can hold and that `normalize` keeps, so it is the one
path of its text. Every name in normal form gives one proper path, though a name with two leading
slashes is not the text of that path.
-/

namespace Folio

open Text

namespace Text

theorem not_mem_of_mem_splitOn {sep : Char} {s piece : List Char} (member : piece ∈ splitOn sep s) :
    sep ∉ piece := by
  induction s generalizing piece with
  | nil => simp_all [splitOn]
  | cons c r ih =>
    unfold splitOn at member
    split at member
    · rcases List.mem_cons.1 member with rfl | member
      · exact List.not_mem_nil
      · exact ih member
    · next different =>
      cases pieces : splitOn sep r with
      | nil => exact absurd pieces (splitOn_ne_nil sep r)
      | cons first rest =>
        simp only [pieces, List.mem_cons] at member
        rcases member with rfl | member
        · have absent := ih (pieces ▸ List.mem_cons_self (a := first))
          simp [Ne.symm different, absent]
        · exact ih (pieces ▸ List.mem_cons_of_mem _ member)

theorem splitOn_append {sep : Char} {piece : List Char} (absent : sep ∉ piece) (rest : List Char) :
    splitOn sep (piece ++ sep :: rest) = piece :: splitOn sep rest := by
  induction piece with
  | nil => simp [splitOn]
  | cons c piece ih =>
    obtain ⟨different, absent⟩ := not_or.1 (mt List.mem_cons.2 absent)
    simp [splitOn, Ne.symm different, ih absent]

theorem splitOn_eq_singleton {sep : Char} {piece : List Char} (absent : sep ∉ piece) :
    splitOn sep piece = [piece] := by
  induction piece with
  | nil => rfl
  | cons c piece ih =>
    obtain ⟨different, absent⟩ := not_or.1 (mt List.mem_cons.2 absent)
    simp [splitOn, Ne.symm different, ih absent]

theorem splitOn_joinWith {sep : Char} {pieces : List (List Char)} (some : pieces ≠ [])
    (absent : ∀ piece ∈ pieces, sep ∉ piece) : splitOn sep (joinWith sep pieces) = pieces := by
  induction pieces with
  | nil => exact absurd rfl some
  | cons first rest ih =>
    have head := absent first (List.mem_cons_self ..)
    cases rest with
    | nil => exact splitOn_eq_singleton head
    | cons second rest =>
      have tail := ih (List.cons_ne_nil _ _) fun piece member =>
        absent piece (List.mem_cons_of_mem _ member)
      rw [joinWith, splitOn_append head, tail]
      exact List.cons_ne_nil _ _

theorem joinWith_concat {sep : Char} {pieces : List (List Char)} (some : pieces ≠ [])
    (piece : List Char) : joinWith sep (pieces ++ [piece]) = joinWith sep pieces ++ sep :: piece := by
  induction pieces with
  | nil => exact absurd rfl some
  | cons first rest ih =>
    cases rest with
    | nil => rfl
    | cons second rest =>
      have tail := ih (List.cons_ne_nil _ _)
      rw [List.cons_append] at tail
      simp [joinWith, tail]

/-- Characters without an upper case are kept at the end of a text. -/
theorem lowerAfter_append (before s : List Char) {tail : List Char}
    (fixed : tail.all (fun c => c != 'Σ' && c != 'İ' && lowered c == c) = true) :
    ∃ image, lowerAfter before (s ++ tail) = image ++ tail := by
  induction s generalizing before with
  | nil =>
    refine ⟨[], ?_⟩
    induction tail generalizing before with
    | nil => rfl
    | cons c tail ih =>
      simp only [List.all_cons, Bool.and_eq_true, bne_iff_ne, beq_iff_eq] at fixed
      obtain ⟨⟨⟨sigma, dotted⟩, same⟩, fixed⟩ := fixed
      have rest := ih fixed (c :: before)
      simp only [List.nil_append] at rest ⊢
      rw [lowerAfter, if_neg sigma, if_neg dotted, same, rest]
      rfl
  | cons c s ih =>
    obtain ⟨image, last⟩ := ih (c :: before)
    rw [List.cons_append, lowerAfter, last]
    exact ⟨_, (List.append_assoc ..).symm⟩

end Text

/-! ## Segments -/

/-- Whether a path text can hold a segment: `pathSegments` gives it back. -/
def IsSegment (segment : String) : Prop :=
  segment ≠ "" ∧ segment ≠ "." ∧ '/' ∉ segment.toList

instance (segment : String) : Decidable (IsSegment segment) :=
  inferInstanceAs (Decidable (_ ∧ _ ∧ _))

theorem isSegment_of_mem {s segment : String} (member : segment ∈ pathSegments s) :
    IsSegment segment := by
  obtain ⟨piece, kept⟩ := List.mem_filter.1 member
  obtain ⟨characters, split, rfl⟩ := List.mem_map.1 piece
  simp only [Bool.and_eq_true, decide_eq_true_eq] at kept
  refine ⟨kept.1, kept.2, ?_⟩
  rw [String.toList_ofList]
  exact not_mem_of_mem_splitOn split

theorem pathSegments_slash (segments : List String) (plain : ∀ s ∈ segments, IsSegment s) :
    pathSegments ("/" ++ joinSegments segments) = segments := by
  have text : ("/" ++ joinSegments segments).toList =
      [] ++ '/' :: joinWith '/' (segments.map String.toList) := by
    simp [joinSegments]
  rw [pathSegments, text, splitOn_append List.not_mem_nil]
  rcases List.eq_nil_or_concat segments with rfl | some
  · rfl
  have some : segments.map String.toList ≠ [] := by
    obtain ⟨_, _, rfl⟩ := some
    simp
  have back : String.ofList ∘ String.toList = id := funext fun _ => String.ofList_toList
  rw [splitOn_joinWith some, List.map_cons, List.map_map, back, List.map_id]
  · refine (List.filter_cons_of_neg (by simp)).trans (List.filter_eq_self.2 fun s member => ?_)
    simpa using ⟨(plain s member).1, (plain s member).2.1⟩
  · intro piece member
    obtain ⟨s, listed, rfl⟩ := List.mem_map.1 member
    exact (plain s listed).2.2

theorem pathSegments_joinSegments (segments : List String) (plain : ∀ s ∈ segments, IsSegment s) :
    pathSegments (joinSegments segments) = segments := by
  have slash : pathSegments ("/" ++ joinSegments segments) = pathSegments (joinSegments segments) := by
    simp [pathSegments, splitOn]
  exact slash.symm.trans (pathSegments_slash segments plain)

namespace Path

theorem isBelow_of_below? {p base : Path} {segments : List String}
    (below : p.below? base = some segments) : p.isBelow base = true := by
  unfold below? at below
  split at below
  · assumption
  · cases below

theorem collapse_eq_self {segments : List String} (none : ".." ∉ segments) :
    collapse segments = segments := by
  have folded (done : List String) :
      segments.foldl collapseOne done = segments.reverse ++ done := by
    induction segments generalizing done with
    | nil => rfl
    | cons s rest ih =>
      obtain ⟨different, none⟩ := not_or.1 (mt List.mem_cons.2 none)
      simp [collapseOne, Ne.symm different, ih none]
  rw [collapse, folded, List.append_nil, List.reverse_reverse]

/-- What collapsing keeps is some of the segments, and none of them is `..`. -/
theorem mem_collapse {segments : List String} {segment : String}
    (member : segment ∈ collapse segments) : segment ∈ segments ∧ segment ≠ ".." := by
  have folded (segments done : List String) (member : segment ∈ segments.foldl collapseOne done) :
      segment ∈ done ∨ segment ∈ segments ∧ segment ≠ ".." := by
    induction segments generalizing done with
    | nil => exact Or.inl member
    | cons s rest ih =>
      rcases ih _ member with earlier | ⟨later, other⟩
      · unfold collapseOne at earlier
        split at earlier
        · exact Or.inl (List.mem_of_mem_tail earlier)
        · next different =>
          rcases List.mem_cons.1 earlier with rfl | earlier
          · exact Or.inr ⟨List.mem_cons_self .., different⟩
          · exact Or.inl earlier
      · exact Or.inr ⟨List.mem_cons_of_mem _ later, other⟩
  exact (folded segments [] (List.mem_reverse.1 member)).resolve_left List.not_mem_nil

/-- Whether a path is the one path of its text and that text is in normal form. -/
def IsProper (p : Path) : Prop :=
  ∀ segment ∈ p.segments, IsSegment segment ∧ segment ≠ ".."

instance (p : Path) : Decidable p.IsProper :=
  inferInstanceAs (Decidable (∀ segment ∈ p.segments, IsSegment segment ∧ segment ≠ ".."))

theorem pathSegments_text {p : Path} (plain : ∀ s ∈ p.segments, IsSegment s) :
    pathSegments p.text = p.segments :=
  pathSegments_slash p.segments plain

/-- A path of plain segments writes one slash first, and no other after it. -/
theorem toList_text {p : Path} (plain : ∀ s ∈ p.segments, IsSegment s) :
    ∃ rest, p.text.toList = '/' :: rest ∧ rest.head? ≠ some '/' := by
  obtain ⟨segments⟩ := p
  cases segments with
  | nil => exact ⟨[], rfl, by simp⟩
  | cons first rest =>
    obtain ⟨some, -, absent⟩ := plain first (List.mem_cons_self ..)
    have written : ∃ c r, first.toList = c :: r ∧ c ≠ '/' := by
      cases characters : first.toList with
      | nil => exact absurd (String.toList_eq_nil_iff.1 characters) some
      | cons c r => exact ⟨c, r, rfl, by rintro rfl; simp [characters] at absent⟩
    obtain ⟨c, r, characters, other⟩ := written
    have text : ∃ more, (Path.mk (first :: rest)).text.toList = '/' :: c :: more := by
      cases rest with
      | nil => exact ⟨r, by simp [Path.text, joinSegments, joinWith, characters]⟩
      | cons second rest => exact ⟨_, by simp [Path.text, joinSegments, joinWith, characters]; rfl⟩
    obtain ⟨more, text⟩ := text
    exact ⟨c :: more, text, by simpa using other⟩

theorem root_ofText {p : Path} (plain : ∀ s ∈ p.segments, IsSegment s) :
    PathRoot.ofText p.text.toList = .absolute := by
  obtain ⟨rest, text, other⟩ := toList_text plain
  rw [text]
  unfold PathRoot.ofText
  split <;> simp_all

/-- A slash in front of the text of a path makes two. -/
theorem root_ofText_slash {p : Path} (plain : ∀ s ∈ p.segments, IsSegment s) :
    PathRoot.ofText ("/" ++ p.text).toList = .doubled := by
  obtain ⟨rest, text, other⟩ := toList_text plain
  rw [String.toList_append, text]
  cases rest with
  | nil => rfl
  | cons c rest =>
    have other : c ≠ '/' := by simpa using other
    simp [PathRoot.ofText, other]

theorem ofText_text {p : Path} (plain : ∀ s ∈ p.segments, IsSegment s) (base : Path) :
    ofText base p.text = p := by
  simp [ofText, Written.ofText, root_ofText plain, pathSegments_text plain]

theorem normalize_text {p : Path} (plain : ∀ s ∈ p.segments, IsSegment s) (base : Path) :
    normalize base p.text = (Path.mk (collapse p.segments)).text := by
  have written : Written.ofText p.text = ⟨.absolute, p.segments⟩ := by
    rw [Written.ofText, root_ofText plain, pathSegments_text plain]
  rw [normalize, written]
  rfl

namespace IsProper

variable {p : Path}

theorem plain (proper : p.IsProper) : ∀ s ∈ p.segments, IsSegment s :=
  fun s member => (proper s member).1

theorem normalize_eq (proper : p.IsProper) (base : Path) : normalize base p.text = p.text := by
  rw [normalize_text proper.plain,
    collapse_eq_self fun member => (proper ".." member).2 rfl]

theorem ofText_eq (proper : p.IsProper) (base : Path) : ofText base p.text = p :=
  ofText_text proper.plain base

/-- The text of a proper path has one slash in front. -/
theorem single (proper : p.IsProper) : PathRoot.ofText p.text.toList ≠ .doubled := by
  rw [root_ofText proper.plain]
  exact nofun

end IsProper

end Path

/-! ## Directories -/

namespace Path

variable {p q r : Path}

theorem isBelow_iff : p.isBelow q = true ↔ ∃ names, q.append names = p := by
  rw [isBelow, List.isPrefixOf_iff_prefix]
  constructor
  · rintro ⟨names, same⟩
    exact ⟨names, congrArg Path.mk same⟩
  · rintro ⟨names, rfl⟩
    exact List.prefix_append ..

theorem isBelow_refl (p : Path) : p.isBelow p = true :=
  List.isPrefixOf_iff_prefix.2 (List.prefix_refl _)

theorem isBelow_trans (one : p.isBelow q = true) (two : q.isBelow r = true) :
    p.isBelow r = true :=
  List.isPrefixOf_iff_prefix.2
    ((List.isPrefixOf_iff_prefix.1 two).trans (List.isPrefixOf_iff_prefix.1 one))

theorem eq_of_isBelow (one : p.isBelow q = true) (two : q.isBelow p = true) : p = q := by
  have same := (List.isPrefixOf_iff_prefix.1 two).eq_of_length_le
    (List.isPrefixOf_iff_prefix.1 one).length_le
  exact congrArg Path.mk same

theorem isBelow_total (one : p.isBelow q = true) (two : p.isBelow r = true) :
    q.isBelow r = true ∨ r.isBelow q = true := by
  unfold isBelow at *
  rw [List.isPrefixOf_iff_prefix] at *
  exact (List.prefix_or_prefix_of_prefix two one).imp id List.isPrefixOf_iff_prefix.2

theorem isBelow_append (p : Path) (names : List String) : (p.append names).isBelow p = true :=
  isBelow_iff.2 ⟨names, rfl⟩

theorem isBelow_parent (p : Path) : p.isBelow p.parent = true :=
  List.isPrefixOf_iff_prefix.2 (List.dropLast_prefix _)

theorem eq_root_of_isBelow_parent (below : p.parent.isBelow p = true) : p = root := by
  have lengths := (List.isPrefixOf_iff_prefix.1 below).length_le
  simp only [parent, List.length_dropLast] at lengths
  exact congrArg Path.mk (List.length_eq_zero_iff.1 (by omega))

theorem append_append (p : Path) (names more : List String) :
    (p.append names).append more = p.append (names ++ more) :=
  congrArg Path.mk (List.append_assoc ..)

theorem child_append (p : Path) (name : String) (names : List String) :
    (p.child name).append names = p.append (name :: names) :=
  append_append p [name] names

theorem child_append_ne_root (p : Path) (name : String) (names : List String) :
    (p.child name).append names ≠ root := by
  simp [child, append, root]

theorem child_ne_root (p : Path) (name : String) : p.child name ≠ root := by
  simp [child, root]

theorem append_nil (p : Path) : p.append [] = p :=
  congrArg Path.mk (List.append_nil _)

theorem root_append (p : Path) : root.append p.segments = p :=
  rfl

theorem append_inj {names names' : List String} (same : p.append names = p.append names') :
    names = names' :=
  List.append_cancel_left (congrArg segments same)

theorem append_ne_self (p : Path) {names : List String} (some : names ≠ []) : p.append names ≠ p :=
  fun same => some (append_inj (same.trans (append_nil p).symm))

theorem isBelow_child (p : Path) (name : String) : (p.child name).isBelow p = true :=
  isBelow_append p [name]

/-- No path lies below two children of one directory. -/
theorem eq_of_isBelow_child {name other : String} (one : p.isBelow (q.child name) = true)
    (two : p.isBelow (q.child other) = true) : name = other := by
  obtain ⟨names, rfl⟩ := isBelow_iff.1 one
  obtain ⟨names', same⟩ := isBelow_iff.1 two
  rw [child_append, child_append] at same
  exact (List.cons.inj (append_inj same)).1.symm

theorem eq_or_isBelow_parent (above : p.isBelow q = true) : q = p ∨ p.parent.isBelow q = true := by
  obtain ⟨names, rfl⟩ := isBelow_iff.1 above
  rcases List.eq_nil_or_concat names with rfl | ⟨first, last, rfl⟩
  · exact Or.inl (append_nil q).symm
  · refine Or.inr (isBelow_iff.2 ⟨first, ?_⟩)
    simp [append, parent, List.dropLast_append_of_ne_nil]

theorem parent_append {names : List String} (some : names ≠ []) :
    (p.append names).parent = p.append names.dropLast := by
  simp [append, parent, List.dropLast_append_of_ne_nil some]

theorem parent_isBelow_parent (below : p.isBelow q = true) : p.parent.isBelow q.parent = true := by
  rcases eq_or_isBelow_parent below with rfl | below
  · exact isBelow_refl _
  · exact isBelow_trans below q.isBelow_parent

theorem child_parent (below : p ≠ root) : p.parent.child p.name = p := by
  obtain ⟨segments⟩ := p
  rcases List.eq_nil_or_concat segments with rfl | ⟨front, last, rfl⟩
  · exact absurd rfl below
  · simp [parent, name, child]

theorem name_child (p : Path) (name : String) : (p.child name).name = name := by
  simp [Path.child, Path.name]

theorem name_withName (p : Path) (name : String) : (p.withName name).name = name := by
  simp [withName, Path.name]

theorem parent_withName (p : Path) (name : String) : (p.withName name).parent = p.parent := by
  simp [withName, parent]

theorem withName_append {names : List String} (some : names ≠ []) (p : Path) (name : String) :
    (p.append names).withName name = p.append (names.dropLast ++ [name]) := by
  simp [Path.append, Path.withName, List.dropLast_append_of_ne_nil some]

namespace IsProper

theorem straight (proper : p.IsProper) : ".." ∉ p.segments :=
  fun member => (proper ".." member).2 rfl

theorem above (proper : p.IsProper) (below : p.isBelow q = true) : q.IsProper :=
  fun segment member => proper segment ((List.isPrefixOf_iff_prefix.1 below).subset member)

theorem append (proper : p.IsProper) {names : List String}
    (plain : ∀ name ∈ names, IsSegment name ∧ name ≠ "..") : (p.append names).IsProper := by
  intro segment member
  rcases List.mem_append.1 member with member | member
  · exact proper segment member
  · exact plain segment member

theorem child (proper : p.IsProper) {name : String} (plain : IsSegment name ∧ name ≠ "..") :
    (p.child name).IsProper :=
  proper.append fun _ member => List.mem_singleton.1 member ▸ plain

end IsProper

end Path

/-! ## Names in normal form -/

theorem startsWith_normalize (base : Path) (s : String) :
    ∃ rest, (normalize base s).toList = '/' :: rest := by
  unfold normalize
  dsimp only
  split
  · exact ⟨_, by rw [String.toList_append]; rfl⟩
  · exact ⟨_, by rw [String.toList_append]; rfl⟩

theorem ofText_of_startsWith {s : String} (slash : ∃ rest, s.toList = '/' :: rest) (base : Path) :
    Path.ofText base s = ⟨pathSegments s⟩ := by
  obtain ⟨rest, slash⟩ := slash
  have root : PathRoot.ofText s.toList ≠ .relative := by
    rw [slash]
    unfold PathRoot.ofText
    split <;> simp_all
  simp [Path.ofText, Written.ofText, root]

/-- A name in normal form that does not start with two slashes is the text of a proper path. -/
theorem exists_text_of_normalize {base : Path} (proper : base.IsProper) {s : String}
    (single : PathRoot.ofText (normalize base s).toList ≠ .doubled) :
    ∃ p : Path, p.IsProper ∧ p.text = normalize base s := by
  let w := Written.ofText s
  let p : Path := ⟨Path.collapse ((if w.root = .relative then base.segments else []) ++ w.segments)⟩
  have plain : p.IsProper := by
    intro segment member
    obtain ⟨kept, other⟩ := Path.mem_collapse member
    rcases List.mem_append.1 kept with start | written
    · split at start
      · exact proper segment start
      · cases start
    · exact ⟨isSegment_of_mem written, other⟩
  have text : normalize base s = (if w.root = .doubled then "//" else "/") ++ joinSegments p.segments :=
    rfl
  by_cases doubled : w.root = .doubled
  · rw [if_pos doubled] at text
    have slash : normalize base s = "/" ++ p.text := by
      rw [text, Path.text, ← String.append_assoc]
      rfl
    rw [slash, Path.root_ofText_slash plain.plain] at single
    exact absurd rfl single
  · rw [if_neg doubled] at text
    exact ⟨p, plain, text.symm⟩

/-- The path of a name that starts at the root has a proper path for its normal form. -/
theorem exists_proper (base : Path) {name : String} (slash : ∃ rest, name.toList = '/' :: rest) :
    ∃ p : Path, p.IsProper ∧ normalize base (Path.ofText base name).text = p.text := by
  rw [ofText_of_startsWith slash]
  have plain : ∀ s ∈ (Path.mk (pathSegments name)).segments, IsSegment s :=
    fun s member => isSegment_of_mem member
  refine ⟨⟨Path.collapse (pathSegments name)⟩, ?_, Path.normalize_text plain base⟩
  intro segment member
  obtain ⟨kept, other⟩ := Path.mem_collapse member
  exact ⟨isSegment_of_mem kept, other⟩

end Folio
