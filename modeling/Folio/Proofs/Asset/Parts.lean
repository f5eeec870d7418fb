import Folio.Proofs.Asset.Fingerprint

/-!
# The parts of a path with a digest

A digest comes to the end of the stem of a path text, and the directory and the extension stay
(`ofText_fingerprinted`). A text in normal form can be put together again from its parts, so that path
and digest can be told from the name that holds both (`fingerprinted_inj`).
-/

namespace Folio.Asset

open Text

/-! ## Directories -/

/-- Whether a directory is made of slashes alone or does not end in one. -/
def IsTrimmed (directory : List Char) : Prop :=
  directory.all (· == '/') = true ∨ directory.getLast? ≠ some '/'

theorem directoryOf_isTrimmed (head : List Char) : IsTrimmed (directoryOf head) := by
  unfold directoryOf
  split
  · next slashes => exact Or.inl slashes
  · refine Or.inr fun last => ?_
    have kept := List.head?_dropWhile_not (· == '/') head.reverse
    rw [trimEnd, List.getLast?_reverse] at last
    simp [last] at kept

theorem directoryOf_slashAfter {directory : List Char} (trimmed : IsTrimmed directory) :
    directoryOf (directory ++ slashAfter directory) = directory := by
  rcases List.eq_nil_or_concat directory with rfl | ⟨front, c, rfl⟩
  · rfl
  · rw [List.concat_eq_append] at trimmed ⊢
    by_cases slash : c = '/'
    · subst slash
      have slashes := trimmed.resolve_right (by simp)
      rw [slashAfter, if_pos (by simp), List.append_nil, directoryOf, if_pos slashes]
    · rw [slashAfter, if_neg (by simp [slash]), List.append_assoc, List.singleton_append,
        directoryOf_concat slash]

/-! ## Names -/

theorem not_mem_splitLast (path : List Char) : '/' ∉ (splitLast path).2 := by
  intro member
  have other := List.mem_takeWhile_imp (List.mem_reverse.1 member)
  simp at other

theorem append_splitLast (path : List Char) :
    (splitLast path).1 ++ (splitLast path).2 = path := by
  have suffix : (splitLast path).2 <:+ path := by
    rw [← List.reverse_prefix, splitLast, List.reverse_reverse]
    exact List.takeWhile_prefix _
  have name := List.suffix_iff_eq_drop.1 suffix
  exact (congrArg ((splitLast path).1 ++ ·) name).trans (List.take_append_drop _ path)

theorem splitLast_directory (directory : List Char) {name : List Char} (plain : '/' ∉ name) :
    splitLast (directory ++ slashAfter directory ++ name) =
      (directory ++ slashAfter directory, name) := by
  unfold slashAfter
  split
  · next top =>
    rcases top with rfl | last
    · have whole : name.reverse.takeWhile (· ≠ '/') = name.reverse := by
        refine List.takeWhile_eq_self_iff.2 fun c member => ?_
        have other : c ≠ '/' := fun same => plain (same ▸ List.mem_reverse.1 member)
        simpa using other
      simp only [splitLast, List.nil_append, whole]
      simp
    · exact splitLast_eq plain (by simpa using last)
  · exact splitLast_eq plain (by simp)

/-! ## Parts -/

/-- A path text in parts: its directory and the stem and the extension of its name. -/
structure Parts where
  directory : List Char
  stem : List Char
  extension : List Char
  deriving DecidableEq, Repr

namespace Parts

def ofText (path : String) : Parts :=
  let (head, name) := splitLast path.toList
  let (stem, extension) := splitSuffix name
  ⟨directoryOf head, stem, extension⟩

def text (parts : Parts) : String :=
  String.ofList (parts.directory ++ slashAfter parts.directory ++ parts.stem ++ parts.extension)

/-- The parts with a digest at the end of the stem. -/
def digested (parts : Parts) (digest : String) : Parts :=
  { parts with stem := parts.stem ++ '-' :: digest.toList }

/-- Whether parts are those of a path text. -/
structure IsCut (parts : Parts) : Prop where
  directory : IsTrimmed parts.directory
  name : '/' ∉ parts.stem ++ parts.extension
  cuts : Cuts parts.stem parts.extension

theorem isCut_ofText (path : String) : (ofText path).IsCut := by
  obtain ⟨stem, extension, whole, cuts, split⟩ := exists_cuts (splitLast path.toList).2
  have plain := not_mem_splitLast path.toList
  rw [whole] at plain
  unfold ofText
  dsimp only
  rw [split]
  exact ⟨directoryOf_isTrimmed _, plain, cuts⟩

namespace IsCut

variable {parts : Parts} {digest : String}

theorem ofText_text (cut : parts.IsCut) : ofText parts.text = parts := by
  have halves := splitLast_directory parts.directory cut.name
  rw [← List.append_assoc] at halves
  unfold ofText
  rw [text, String.toList_ofList, halves]
  dsimp only
  rw [cut.cuts.splitSuffix_eq, directoryOf_slashAfter cut.directory]

theorem digested (cut : parts.IsCut) (short : Digest.IsShort digest.toList) :
    (parts.digested digest).IsCut where
  directory := cut.directory
  name := by
    obtain ⟨stem, extension⟩ := not_or.1 (mt List.mem_append.2 cut.name)
    have plain : '/' ∉ digest.toList := short.not_mem (by decide)
    simp [Parts.digested, stem, extension, plain]
  cuts := cut.cuts.digested (short.not_mem (by decide))

end IsCut

end Parts

theorem fingerprinted_eq (path digest : String) :
    fingerprinted path digest = ((Parts.ofText path).digested digest).text := by
  unfold fingerprinted Parts.text Parts.digested Parts.ofText slashAfter
  simp only [List.append_assoc]

/-- A digest changes nothing but the stem. -/
theorem ofText_fingerprinted (path : String) {digest : String}
    (short : Digest.IsShort digest.toList) :
    Parts.ofText (fingerprinted path digest) = (Parts.ofText path).digested digest := by
  rw [fingerprinted_eq]
  exact ((Parts.isCut_ofText path).digested short).ofText_text

/-! ## Paths in normal form -/

section Normal

variable {base : Path} {path : String}

/-- A name in normal form is the text of a path, or has one more slash in front. -/
theorem exists_text_of_normal (normal : normalize base path = path) :
    ∃ p : Path, (∀ s ∈ p.segments, IsSegment s) ∧
      (path.toList = p.text.toList ∨ path.toList = '/' :: p.text.toList) := by
  obtain ⟨rest, slash⟩ := startsWith_normalize base path
  rw [normal] at slash
  have root : PathRoot.ofText path.toList ≠ .relative := by
    rw [slash]
    unfold PathRoot.ofText
    split <;> simp_all
  refine ⟨⟨Path.collapse (pathSegments path)⟩,
    fun s member => isSegment_of_mem (Path.mem_collapse member).1, ?_⟩
  have start : (if PathRoot.ofText path.toList = .relative then base.segments else []) = [] :=
    if_neg root
  have text := normal
  unfold normalize at text
  dsimp only [Written.ofText] at text
  rw [start, List.nil_append] at text
  generalize Path.collapse (pathSegments path) = segments at text ⊢
  rw [← text]
  split
  · exact Or.inr (by simp [Path.text])
  · exact Or.inl rfl

/-- A name in normal form can be put together from its parts. -/
theorem text_ofText_of_normal (normal : normalize base path = path) :
    (Parts.ofText path).text = path := by
  obtain ⟨p, plain, text⟩ := exists_text_of_normal normal
  obtain ⟨slashes, alone, text⟩ : ∃ slashes : List Char, slashes.all (· == '/') = true ∧
      path.toList = slashes ++ p.text.toList := by
    rcases text with text | text
    · exact ⟨[], rfl, text⟩
    · exact ⟨['/'], rfl, text⟩
  have joined : directoryOf (splitLast path.toList).1 ++
      slashAfter (directoryOf (splitLast path.toList).1) = (splitLast path.toList).1 := by
    by_cases top : p = Path.root
    · have split : splitLast path.toList = (slashes ++ headOf Path.root, []) := by
        have head : path.toList = (slashes ++ headOf Path.root) ++ [] := by
          rw [text, top, List.append_nil]
          rfl
        rw [head]
        exact splitLast_eq List.not_mem_nil (by simp [headOf, Path.root])
      rw [split]
      exact directoryOf_headOf (fun s member => absurd member List.not_mem_nil) alone
    · have above : ∀ s ∈ p.parent.segments, IsSegment s :=
        fun s member => plain s (List.dropLast_subset _ member)
      rw [text, splitLast_text plain top]
      exact directoryOf_headOf above alone
  obtain ⟨stem, extension, whole, -, split⟩ := exists_cuts (splitLast path.toList).2
  have name : (splitLast path.toList).1 ++ (stem ++ extension) = path.toList := by
    rw [← whole, append_splitLast]
  rw [Parts.text, Parts.ofText]
  dsimp only
  rw [split, joined, List.append_assoc, name, String.ofList_toList]

end Normal

theorem Parts.digested_inj {parts other : Parts} {digest digest' : String}
    (short : Digest.IsShort digest.toList) (short' : Digest.IsShort digest'.toList)
    (same : parts.digested digest = other.digested digest') : parts = other ∧ digest = digest' := by
  obtain ⟨directory, stem, extension⟩ := parts
  obtain ⟨directory', stem', extension'⟩ := other
  obtain ⟨directories, stems, extensions⟩ := Parts.mk.inj same
  have lengths : ('-' :: digest.toList).length = ('-' :: digest'.toList).length := by
    rw [List.length_cons, List.length_cons, short.length, short'.length]
  obtain ⟨stem_eq, digests⟩ := List.append_inj' stems lengths
  exact ⟨Parts.mk.injEq .. ▸ ⟨directories, stem_eq, extensions⟩,
    String.toList_injective (List.cons.inj digests).2⟩

/-- Path and digest can be told from the name that holds both, and a name with a digest has the
directory and the extension of the path. -/
theorem fingerprinted_inj {base base' : Path} {p q digest digest' : String}
    (normal : normalize base p = p) (normal' : normalize base' q = q)
    (short : Digest.IsShort digest.toList) (short' : Digest.IsShort digest'.toList) :
    (fingerprinted p digest = fingerprinted q digest' → p = q ∧ digest = digest') ∧
    (Parts.ofText (fingerprinted p digest)).directory = (Parts.ofText p).directory ∧
    (Parts.ofText (fingerprinted p digest)).extension = (Parts.ofText p).extension := by
  refine ⟨fun same => ?_, ?_, ?_⟩
  · have parts : (Parts.ofText p).digested digest = (Parts.ofText q).digested digest' := by
      rw [← ofText_fingerprinted p short, ← ofText_fingerprinted q short', same]
    obtain ⟨cut, digests⟩ := Parts.digested_inj short short' parts
    refine ⟨?_, digests⟩
    rw [← text_ofText_of_normal normal, cut, text_ofText_of_normal normal']
  · rw [ofText_fingerprinted p short]
    rfl
  · rw [ofText_fingerprinted p short]
    rfl

/-- A path that looks like one with a digest, and the path it looks like. -/
theorem fingerprinted_ne_of_digits :
    fingerprinted "/assets/img/..logo-c4ca4238a0.svg" "c81e728d9d" ≠
      fingerprinted "/assets/img/..logo.svg" "c4ca4238a0" ∧
    (Parts.ofText (fingerprinted "/assets/img/..logo-c4ca4238a0.svg" "c81e728d9d")).directory =
      "/assets/img".toList ∧
    (Parts.ofText (fingerprinted "/assets/img/..logo-c4ca4238a0.svg" "c81e728d9d")).extension =
      ".svg".toList := by
  have facts := @fingerprinted_inj Path.root Path.root "/assets/img/..logo-c4ca4238a0.svg"
    "/assets/img/..logo.svg" "c81e728d9d" "c4ca4238a0" (by decide +kernel) (by decide +kernel)
    ⟨by decide, List.all_eq_true.1 (by decide)⟩ ⟨by decide, List.all_eq_true.1 (by decide)⟩
  have directory : (Parts.ofText "/assets/img/..logo-c4ca4238a0.svg").directory =
      "/assets/img".toList := by decide +kernel
  have extension : (Parts.ofText "/assets/img/..logo-c4ca4238a0.svg").extension =
      ".svg".toList := by decide +kernel
  exact ⟨fun same => absurd (facts.1 same).2 (by decide), facts.2.1.trans directory,
    facts.2.2.trans extension⟩

end Folio.Asset
