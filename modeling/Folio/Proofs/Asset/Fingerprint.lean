import Folio.Asset.Fingerprint
import Folio.Proofs.FileTree.Write
import Folio.Text.Letter
import Mathlib.Data.List.TakeWhile

/-!
# Names with a digest

A path in normal form keeps its directory when it is given a digest (`fingerprinted_text`). Name and
digest can be told from the name that holds both (`withDigest_inj`), and the name of a temporary file
comes of no asset (`withDigest_ne_temporary`).
-/

namespace Folio

open Text

/-! ## Digests -/

namespace Digest

theorem isHexDigit_hexDigit {n : Nat} (small : n < 16) : isHexDigit (hexDigit n) = true :=
  (by decide : ∀ n : Fin 16, isHexDigit (hexDigit n) = true) ⟨n, small⟩

theorem isHexDigit_of_mem {width n : Nat} {c : Char} (member : c ∈ hexDigits width n) :
    isHexDigit c = true := by
  induction width generalizing n with
  | zero => cases member
  | succ width ih =>
    rcases List.mem_append.1 member with member | member
    · exact ih member
    · rw [List.mem_singleton.1 member]
      exact isHexDigit_hexDigit (Nat.mod_lt n (by decide))

theorem length_littleEndian (count n : Nat) : (littleEndian count n).length = count := by
  induction count generalizing n with
  | zero => rfl
  | succ count ih => simp [littleEndian, ih]

theorem length_hex (bytes : Bytes) : (hex bytes).length = 2 * bytes.length := by
  induction bytes with
  | nil => rfl
  | cons b bytes ih =>
    have first : hex (b :: bytes) = hexDigits 2 b.toNat ++ hex bytes := rfl
    rw [first, List.length_append, length_hexDigits, ih, List.length_cons]
    omega

theorem length_md5 (bytes : Bytes) : (md5 bytes).length = 16 := by
  simp [md5, length_littleEndian]

/-- Whether some characters are what a name holds of a digest. -/
structure IsShort (digest : List Char) : Prop where
  length : digest.length = 10
  digits : ∀ c ∈ digest, isHexDigit c = true

theorem IsShort.not_mem {digest : List Char} (short : IsShort digest) {c : Char}
    (other : isHexDigit c = false) : c ∉ digest :=
  fun member => Bool.false_ne_true (other.symm.trans (short.digits c member))

theorem ofContent_isShort (content : Bytes) :
    IsShort (ofContent (some Asset.digestLength) content).toList := by
  have digits : (ofContent (some Asset.digestLength) content).toList = (hex (md5 content)).take 10 := by
    simp [ofContent, cut, Asset.digestLength]
  rw [digits]
  constructor
  · rw [List.length_take, length_hex, length_md5]
    rfl
  · intro c member
    obtain ⟨b, -, member⟩ := List.mem_flatMap.1 (List.mem_of_mem_take member)
    exact isHexDigit_of_mem member

end Digest

/-! ## Names -/

namespace Asset

/-- Whether a name is cut between a stem and an extension: before the last dot that comes after
another character, or nowhere. -/
inductive Cuts : List Char → List Char → Prop
  | whole {name : List Char} (plain : '.' ∉ name.dropWhile (· == '.')) : Cuts name []
  | before {stem tail : List Char} (plain : '.' ∉ tail) (inside : stem.dropWhile (· == '.') ≠ []) :
      Cuts stem ('.' :: tail)

theorem drop_takeWhile (p : Char → Bool) (s : List Char) :
    s.drop (s.takeWhile p).length = s.dropWhile p := by
  induction s with
  | nil => rfl
  | cons c s ih =>
    cases holds : p c with
    | true => simpa [List.takeWhile_cons, List.dropWhile_cons, holds] using ih
    | false => simp [holds]

theorem Cuts.splitSuffix_eq {stem extension : List Char} (cuts : Cuts stem extension) :
    splitSuffix (stem ++ extension) = (stem, extension) := by
  unfold splitSuffix
  dsimp only
  rw [drop_takeWhile]
  cases cuts with
  | whole plain =>
    rw [List.append_nil, if_neg (by simpa using plain)]
  | @before tail plain inside =>
    have rest : (stem ++ '.' :: tail).dropWhile (· == '.') =
        stem.dropWhile (· == '.') ++ '.' :: tail := by
      rw [List.dropWhile_append, if_neg (by simpa using inside)]
    have last : ((stem.dropWhile (· == '.') ++ '.' :: tail).reverse.takeWhile (· ≠ '.')).length =
        tail.length := by
      rw [List.reverse_append, List.reverse_cons, List.append_assoc, List.takeWhile_append_of_pos]
      · simp
      · intro c member
        have other : c ≠ '.' := fun same => plain (same ▸ List.mem_reverse.1 member)
        simpa using other
    have cut : (stem ++ '.' :: tail).length - tail.length - 1 = stem.length := by
      simp
      omega
    rw [rest, if_pos (by simp), last, cut, List.take_left, List.drop_left]

theorem exists_cuts (name : List Char) : ∃ stem extension, name = stem ++ extension ∧
    Cuts stem extension ∧ splitSuffix name = (stem, extension) := by
  by_cases dotted : '.' ∈ name.dropWhile (· == '.')
  · obtain ⟨after, before, same, plain⟩ := List.eq_append_cons_of_mem (List.mem_reverse.2 dotted)
    have rest : name.dropWhile (· == '.') = before.reverse ++ '.' :: after.reverse := by
      rw [← List.reverse_reverse (name.dropWhile _), same]
      simp
    have whole : name = (name.takeWhile (· == '.') ++ before.reverse) ++ '.' :: after.reverse := by
      rw [List.append_assoc, ← rest, List.takeWhile_append_dropWhile]
    have inside : (name.takeWhile (· == '.') ++ before.reverse).dropWhile (· == '.') ≠ [] := by
      have first := List.head?_dropWhile_not (· == '.') name
      rw [rest] at first
      rw [Ne, List.dropWhile_eq_nil_iff]
      intro all
      cases front : before.reverse with
      | nil => simp [front] at first
      | cons c front' =>
        rw [front] at first
        change (c == '.') = false at first
        have dot := all c (List.mem_append_right _ (front ▸ List.mem_cons_self ..))
        exact Bool.false_ne_true (first.symm.trans dot)
    have cuts : Cuts (name.takeWhile (· == '.') ++ before.reverse) ('.' :: after.reverse) :=
      .before (by simpa using plain) inside
    exact ⟨_, _, whole, cuts, by rw [← cuts.splitSuffix_eq, ← whole]⟩
  · exact ⟨name, [], (List.append_nil name).symm, .whole dotted, by
      simpa using (Cuts.whole dotted).splitSuffix_eq⟩

/-- A name with a digest before its extension. -/
def withDigest (name digest : List Char) : List Char :=
  (splitSuffix name).1 ++ '-' :: digest ++ (splitSuffix name).2

theorem Cuts.digested {stem extension digest : List Char} (cuts : Cuts stem extension)
    (plain : '.' ∉ digest) : Cuts (stem ++ '-' :: digest) extension := by
  cases cuts with
  | whole undotted =>
    refine .whole ?_
    rw [List.dropWhile_append]
    split
    · simpa using plain
    · simpa using ⟨undotted, plain⟩
  | before undotted inside =>
    refine .before undotted fun none => inside ?_
    rw [List.dropWhile_eq_nil_iff] at none ⊢
    exact fun c member => none c (List.mem_append_left _ member)

theorem splitSuffix_withDigest {name digest : List Char} (plain : '.' ∉ digest) :
    splitSuffix (withDigest name digest) =
      ((splitSuffix name).1 ++ '-' :: digest, (splitSuffix name).2) := by
  obtain ⟨stem, extension, -, cuts, split⟩ := exists_cuts name
  rw [withDigest, split]
  exact (cuts.digested plain).splitSuffix_eq

/-- Name and digest can be told from a name with a digest. -/
theorem withDigest_inj {name other digest digest' : List Char} (short : Digest.IsShort digest)
    (short' : Digest.IsShort digest') (same : withDigest name digest = withDigest other digest') :
    name = other ∧ digest = digest' := by
  have split := @splitSuffix_withDigest name digest (short.not_mem (by decide))
  rw [same, splitSuffix_withDigest (short'.not_mem (by decide))] at split
  obtain ⟨stems, extensions⟩ := Prod.mk.inj split
  obtain ⟨stem_eq, digest_eq⟩ := List.append_inj' stems (by simp [short.length, short'.length])
  obtain ⟨stem, extension, whole, -, cut⟩ := exists_cuts name
  obtain ⟨stem', extension', whole', -, cut'⟩ := exists_cuts other
  rw [cut, cut'] at stem_eq extensions
  dsimp only at stem_eq extensions
  refine ⟨?_, ((List.cons.inj digest_eq).2).symm⟩
  rw [whole, whole', stem_eq, extensions]

/-- A name that ends like a temporary file and holds a digest has had that end before. -/
theorem withDigest_ne_temporary {name digest stem : List Char} (short : Digest.IsShort digest)
    (other : ¬ ".tmp".toList <:+ name) : withDigest name digest ≠ stem ++ ".tmp".toList := by
  intro same
  obtain ⟨front, extension, whole, cuts, split⟩ := exists_cuts name
  have ends : (front ++ '-' :: digest) ++ extension = stem ++ ".tmp".toList := by
    rw [← same, withDigest, split]
  cases cuts with
  | whole undotted =>
    rw [List.append_nil] at ends
    have last := congrArg List.getLast? ends
    have some : digest ≠ [] := by
      rintro rfl
      exact absurd short.length (by decide)
    rw [List.getLast?_append, List.getLast?_cons_of_ne_nil some] at last
    cases digits : digest.getLast? with
    | none => exact some (List.getLast?_eq_none_iff.1 digits)
    | some c =>
      rw [digits] at last
      simp at last
      exact short.not_mem (by decide : isHexDigit 'p' = false) (last ▸ List.mem_of_getLast? digits)
  | @before tail undotted inside =>
    have suffix : '.' :: tail = ".tmp".toList := by
      have one : '.' :: tail <:+ stem ++ ".tmp".toList := ⟨_, ends⟩
      have two : ".tmp".toList <:+ stem ++ ".tmp".toList := List.suffix_append ..
      rcases List.suffix_or_suffix_of_suffix one two with short | long
      · rcases List.suffix_cons_iff.1 short with same | later
        · exact same
        · exact absurd (later.mem (List.mem_cons_self ..)) (by decide)
      · rcases List.suffix_cons_iff.1 long with same | later
        · exact same.symm
        · exact absurd (later.mem (by decide : '.' ∈ ".tmp".toList)) undotted
    exact other ⟨front, by rw [whole, suffix]⟩

/-! ## Paths -/

/-- The text of what is in a directory, up to its name. -/
def headOf (directory : Path) : List Char :=
  if directory.segments = [] then ['/'] else directory.text.toList ++ ['/']

theorem text_child (p : Path) (name : String) :
    (p.child name).text.toList = headOf p ++ name.toList := by
  unfold headOf
  split
  · next empty => simp [Path.text, Path.child, empty, joinSegments, joinWith]
  · next some =>
    have pieces : p.segments.map String.toList ≠ [] := by simpa using some
    simp [Path.text, Path.child, joinSegments, joinWith_concat pieces]

theorem isSegment_name {p : Path} (plain : ∀ s ∈ p.segments, IsSegment s) (below : p ≠ Path.root) :
    IsSegment p.name := by
  refine plain _ ?_
  rw [← congrArg Path.segments (Path.child_parent below)]
  exact List.mem_append_right _ (List.mem_singleton_self _)

theorem getLast?_text {p : Path} (plain : ∀ s ∈ p.segments, IsSegment s) (below : p.segments ≠ []) :
    ∃ c, p.text.toList.getLast? = some c ∧ c ≠ '/' := by
  have top : p ≠ Path.root := fun same => below (congrArg Path.segments same)
  obtain ⟨some, -, absent⟩ := isSegment_name plain top
  rw [← Path.child_parent top, text_child, List.getLast?_append]
  cases last : p.name.toList.getLast? with
  | none => exact absurd (String.toList_eq_nil_iff.1 (List.getLast?_eq_none_iff.1 last)) some
  | some c =>
    refine ⟨c, rfl, ?_⟩
    rintro rfl
    exact absent (List.mem_of_getLast? last)

theorem splitLast_eq {head name : List Char} (plain : '/' ∉ name)
    (slash : head.getLast? = some '/') : splitLast (head ++ name) = (head, name) := by
  have last : (head ++ name).reverse.takeWhile (· ≠ '/') = name.reverse := by
    rw [List.reverse_append, List.takeWhile_append_of_pos]
    · obtain ⟨front, rfl⟩ := List.getLast?_eq_some_iff.1 slash
      simp
    · intro c member
      have other : c ≠ '/' := fun same => plain (same ▸ List.mem_reverse.1 member)
      simpa using other
  unfold splitLast
  rw [last]
  simp

/-- The text of a path, after any slashes, up to its last name. -/
theorem splitLast_text {p : Path} (plain : ∀ s ∈ p.segments, IsSegment s) (below : p ≠ Path.root)
    (slashes : List Char) :
    splitLast (slashes ++ p.text.toList) = (slashes ++ headOf p.parent, p.name.toList) := by
  rw [← Path.child_parent below, text_child, Path.child_parent below, ← List.append_assoc]
  exact splitLast_eq (isSegment_name plain below).2.2 (by unfold headOf; split <;> simp)

/-- The slash between a directory and a name in it. -/
def slashAfter (directory : List Char) : List Char :=
  if directory = [] ∨ directory.getLast? = some '/' then [] else ['/']

theorem directoryOf_concat {front : List Char} {c : Char} (other : c ≠ '/') :
    directoryOf (front ++ [c, '/']) = front ++ [c] := by
  rw [directoryOf, if_neg (by simp [other]), trimEnd]
  simp [other]

/-- The directory of a path and the slash that follows it, after any other slashes. -/
theorem directoryOf_headOf {p : Path} (plain : ∀ s ∈ p.segments, IsSegment s) {slashes : List Char}
    (alone : slashes.all (· == '/') = true) :
    directoryOf (slashes ++ headOf p) ++ slashAfter (directoryOf (slashes ++ headOf p)) =
      slashes ++ headOf p := by
  by_cases empty : p.segments = []
  · have all : (slashes ++ ['/']).all (· == '/') = true := by simp [alone]
    rw [headOf, if_pos empty, directoryOf, if_pos all, slashAfter, if_pos (by simp), List.append_nil]
  · obtain ⟨c, last, other⟩ := getLast?_text plain empty
    obtain ⟨front, text⟩ := List.getLast?_eq_some_iff.1 last
    have head : slashes ++ headOf p = (slashes ++ front) ++ [c, '/'] := by
      rw [headOf, if_neg empty, text]
      simp
    rw [head, directoryOf_concat other, slashAfter, if_neg (by simp [other])]
    simp

/-- The path of an asset with a digest in its name. -/
def digestPath (p : Path) (digest : String) : Path :=
  p.withName (String.ofList (withDigest p.name.toList digest.toList))

theorem fingerprinted_text {p : Path} (plain : ∀ s ∈ p.segments, IsSegment s)
    (below : p ≠ Path.root) (digest : String) :
    fingerprinted p.text digest = (digestPath p digest).text := by
  have above : ∀ s ∈ p.parent.segments, IsSegment s :=
    fun s member => plain s (List.dropLast_subset _ member)
  have split : splitLast p.text.toList = (headOf p.parent, p.name.toList) :=
    splitLast_text plain below []
  have joined : directoryOf (headOf p.parent) ++ slashAfter (directoryOf (headOf p.parent)) =
      headOf p.parent := @directoryOf_headOf p.parent above [] rfl
  have digested : (digestPath p digest).text.toList =
      headOf p.parent ++ withDigest p.name.toList digest.toList := by
    change (p.parent.child _).text.toList = _
    rw [text_child, String.toList_ofList]
  rw [← @String.ofList_toList (digestPath p digest).text, digested]
  unfold fingerprinted
  rw [split]
  dsimp only
  rw [← slashAfter, joined]
  simp [withDigest]

theorem mem_withDigest {name digest : List Char} {c : Char} (member : c ∈ withDigest name digest) :
    c ∈ name ∨ c = '-' ∨ c ∈ digest := by
  obtain ⟨stem, extension, whole, -, split⟩ := exists_cuts name
  rw [withDigest, split] at member
  rw [whole]
  simp only [List.mem_append, List.mem_cons] at member ⊢
  rcases member with (inside | later) | inside
  · exact Or.inl (Or.inl inside)
  · exact Or.inr later
  · exact Or.inl (Or.inr inside)

theorem digestPath_isProper {p : Path} {digest : String} (proper : p.IsProper)
    (short : Digest.IsShort digest.toList) : (digestPath p digest).IsProper := by
  intro segment member
  rcases List.mem_append.1 member with member | member
  · exact proper segment (List.dropLast_subset _ member)
  · rw [List.mem_singleton.1 member]
    have dashed : '-' ∈ withDigest p.name.toList digest.toList := by
      simp [withDigest]
    have unlike {other : String} (plain : '-' ∉ other.toList) :
        String.ofList (withDigest p.name.toList digest.toList) ≠ other := by
      rintro rfl
      exact plain (String.toList_ofList ▸ dashed)
    refine ⟨⟨unlike (by decide), unlike (by decide), ?_⟩, unlike (by decide)⟩
    rw [String.toList_ofList]
    intro slash
    rcases mem_withDigest slash with name | dash | digits
    · exact FileTree.Op.slash_not_mem_name proper name
    · exact absurd dash (by decide)
    · exact short.not_mem (by decide) digits

theorem digestPath_inj {p q : Path} {digest digest' : String} (below : p ≠ Path.root)
    (below' : q ≠ Path.root) (short : Digest.IsShort digest.toList)
    (short' : Digest.IsShort digest'.toList) (same : digestPath p digest = digestPath q digest') :
    p = q ∧ digest = digest' := by
  have parents := congrArg Path.parent same
  have names := congrArg (fun p : Path => p.name.toList) same
  simp only [digestPath, Path.parent_withName, Path.name_withName, String.toList_ofList] at parents names
  obtain ⟨name, digits⟩ := withDigest_inj short short' names
  refine ⟨?_, String.toList_injective digits⟩
  rw [← Path.child_parent below, ← Path.child_parent below', parents, String.toList_injective name]

theorem digestPath_ne_temporary {p : Path} {digest : String} (short : Digest.IsShort digest.toList)
    (other : ¬ ".tmp".toList <:+ p.name.toList) (q : Path) :
    digestPath p digest ≠ FileTree.Op.temporary q := by
  intro same
  have names := congrArg (fun p : Path => p.name.toList) same
  simp only [digestPath, FileTree.Op.temporary, Path.name_withName, String.toList_ofList,
    String.toList_append] at names
  exact withDigest_ne_temporary short other names

/-- No asset has the name of a temporary file. -/
theorem categoryOf_temporary {name : String} (temporary : ".tmp".toList <:+ name.toList) :
    categoryOf name = none := by
  obtain ⟨front, text⟩ := temporary
  obtain ⟨image, lowered⟩ := lowerAfter_append [] front (by decide : ".tmp".toList.all _ = true)
  have ends : (lower name).toList = image ++ ".tmp".toList := by
    rw [lower, String.toList_ofList, ← text, lowered]
  have unlike (suffix : String) (other : suffix.toList.reverse.isPrefixOf
      (".tmp".toList.reverse ++ image.reverse) = false) : endsWith (lower name) suffix = false := by
    rw [endsWith, ends, List.isSuffixOf, List.reverse_append, other]
  have images : endsWithAny (lower name) imageExtensions = false := by
    refine List.any_eq_false.2 fun suffix member => ?_
    rw [Bool.not_eq_true]
    refine unlike suffix ?_
    simp only [imageExtensions, List.mem_cons, List.not_mem_nil, or_false] at member
    rcases member with rfl | rfl | rfl | rfl | rfl | rfl | rfl <;> rfl
  unfold categoryOf
  dsimp only
  rw [images, unlike ".css" rfl, unlike ".js" rfl]
  rfl

end Asset

end Folio
