import Folio.Proofs.Asset.Fingerprint
import Folio.Proofs.Build.Craft
import Folio.Proofs.Build.Stage
import Folio.Proofs.FileTree.Fence

/-!
# Links in the output

Outside production the output holds links into the sources, at places that are known beforehand
(`isLinkPlace`). Builds and batches keep links to these places and write nothing through them, as
long as no page or image has its output below such a place (`guards_buildProject`,
`guards_handle`). In production there are no links.
-/

namespace Folio.Build

open FileTree Dependencies

/-! ## Places of links -/

def isImageName (name : String) : Bool :=
  Asset.imageExtensions.contains (Text.lower (Name.extension name))

/-- Whether links may lie at a place below the output: outside production images and the vendor
files are linked. -/
def isLinkPlace (production : Bool) : List String → Bool
  | ["vendor"] => !production
  | "assets" :: "img" :: names => !production && names.getLast?.any isImageName
  | _ => false

/-- Whether no link may lie on the way to a place below the output. -/
def Clear (production : Bool) (names : List String) : Prop :=
  ∀ n < names.length, isLinkPlace production (names.take n) = false

instance (production : Bool) (names : List String) : Decidable (Clear production names) :=
  inferInstanceAs (Decidable (∀ n < names.length, _))

section Places

variable {production : Bool} {names : List String} {l : Layout} {p : Path}

theorem isLinkPlace_production (names : List String) : isLinkPlace true names = false := by
  unfold isLinkPlace
  split <;> rfl

theorem clear_production (names : List String) : Clear true names :=
  fun _ _ => isLinkPlace_production _

theorem clear_assets {name : String} (other : name ≠ "img") (names : List String) :
    Clear production ("assets" :: name :: names) := by
  intro n _
  match n with
  | 0 => rfl
  | 1 => rfl
  | n + 2 => simp [isLinkPlace, other]

/-- What lies beside a place has the same way to it. -/
theorem Clear.beside (clear : Clear production names) (some : names ≠ []) (name : String) :
    Clear production (names.dropLast ++ [name]) := by
  have front := List.dropLast_append_getLast some
  intro n short
  have within : n < names.length := by
    rw [← front]
    simpa using short
  have shared : names.take n = (names.dropLast ++ [name]).take n := by
    conv_lhs => rw [← front]
    have bound : n ≤ names.dropLast.length := by
      rw [List.length_dropLast]
      omega
    rw [List.take_append_of_le_length bound, List.take_append_of_le_length bound]
  exact shared ▸ clear n within

/-- The places of links below the output. -/
abbrev LinkPlace (production : Bool) (names : List String) : Prop :=
  isLinkPlace production names = true

theorem within_append (output : l.output.IsProper) (clear : Clear production names)
    (proper : ∀ name ∈ names, IsSegment name ∧ name ≠ "..") (some : names ≠ []) :
    Within l.output (LinkPlace production) (l.output.append names) where
  proper := output.append proper
  near := Or.inl (Path.isBelow_append ..)
  free q above before same place := by
    subst same
    rw [Path.parent_append some] at above
    obtain ⟨after, split⟩ := Path.isBelow_iff.1 above
    rw [Path.append_append] at split
    have split := Path.append_inj split
    have short : before.length < names.length := by
      have lengths := congrArg List.length split
      have positive := List.length_pos_iff.2 some
      simp only [List.length_append, List.length_dropLast] at lengths
      omega
    have beginning : names.take before.length = before := by
      rw [← List.dropLast_append_getLast some, ← split]
      simp
    have none := clear before.length short
    rw [beginning] at none
    exact absurd (none.symm.trans place) Bool.false_ne_true

theorem extension_temporary (name : String) : Name.extension ("." ++ name ++ ".tmp") = ".tmp" := by
  have characters : ("." ++ name ++ ".tmp").toList = '.' :: name.toList ++ ['.', 't', 'm', 'p'] := by
    simp
  unfold Name.extension Name.splitExtension
  rw [characters]
  simp [List.takeWhile]

/-- Where a file is written first no link may lie. -/
theorem free_temporary (p : Path) :
    Free l.output (LinkPlace production) (Op.temporary p) := by
  intro names same place
  have last : ∀ name, names.getLast? = some name → name = "." ++ p.name ++ ".tmp" := by
    intro name last
    have named := congrArg Path.name same
    rw [Op.temporary, Path.name_withName] at named
    simpa [Path.append, Path.name, List.getLast?_append, last] using named
  unfold LinkPlace isLinkPlace at place
  split at place
  · have first := congrArg String.toList (last "vendor" rfl)
    simp at first
  · next more =>
    cases found : more.getLast? with
    | none => simp [found] at place
    | some name =>
      have named := last name (by simp [List.getLast?_cons, found])
      rw [found] at place
      simp only [Option.any_some, Bool.and_eq_true, isImageName, named, extension_temporary] at place
      exact absurd place.2 (by decide)
  · cases place

end Places

/-! ## What a build keeps -/

/-- What a build keeps while it works: the site lies where it did, the output is fenced, and the names
in the dependency index and the files to remove are proper. -/
structure Guarded (l : Layout) (base : Path) (production : Bool) (t₀ : FileTree) (s : State) :
    Prop where
  layout : s.layout = l
  base : s.base = base
  mode : s.production = production
  files : Fenced l.output (LinkPlace production) t₀ s.files
  indexed : Indexed s.dependencies
  named : ∀ source files, s.dependencies.edges.lookup source = some files →
    ∃ p : Path, p.IsProper ∧ p.text = source
  stored : ∀ path old, s.store.get? path = some old →
    Within l.output (LinkPlace production) (l.outputFile old)

/-- Whether the sources and the output of a site lie apart. -/
structure Apart (l : Layout) (base : Path) : Prop where
  base : base.IsProper
  source : l.source.IsProper
  output : l.output.IsProper
  below : l.source.isBelow l.output = false
  above : l.output.isBelow l.source = false

/-- Whether no page or image has its output below the place of a link. -/
structure Tame (l : Layout) (t : FileTree) : Prop where
  plain : t.PlainBelow l.source
  views : ∀ names e, t.get? (l.views.append names) = some e → Clear false names
  images : ∀ names e, t.get? (l.images.append names) = some e → Clear false ("assets" :: "img" :: names)

instance (l : Layout) (base : Path) : Decidable (Apart l base) :=
  decidable_of_iff (base.IsProper ∧ l.source.IsProper ∧ l.output.IsProper ∧
      l.source.isBelow l.output = false ∧ l.output.isBelow l.source = false)
    ⟨fun ⟨base, source, output, below, above⟩ => ⟨base, source, output, below, above⟩,
      fun ⟨base, source, output, below, above⟩ => ⟨base, source, output, below, above⟩⟩

instance (l : Layout) (t : FileTree) : Decidable (Tame l t) :=
  decidable_of_iff (t.PlainBelow l.source ∧ ∀ e ∈ t.entries,
    (∀ names ∈ e.1.below? l.views, Clear false names) ∧
      ∀ names ∈ e.1.below? l.images, Clear false ("assets" :: "img" :: names)) <| by
    refine ⟨fun ⟨plain, all⟩ => ⟨plain, fun names e found => ?_, fun names e found => ?_⟩,
      fun tame => ⟨tame.plain, fun e member => ⟨fun names below => ?_, fun names below => ?_⟩⟩⟩
    · obtain ⟨e, member⟩ := exists_mem_entries found (Path.child_append_ne_root _ _ _)
      exact (all _ member).1 names (Path.below?_append ..)
    · obtain ⟨e, member⟩ := exists_mem_entries found (Path.child_append_ne_root _ _ _)
      exact (all _ member).2 names (Path.below?_append ..)
    · obtain ⟨there, found⟩ := exists_get?_of_mem member
      exact tame.views names there (Path.append_of_below? below ▸ found)
    · obtain ⟨there, found⟩ := exists_get?_of_mem member
      exact tame.images names there (Path.append_of_below? below ▸ found)

section Steps

variable {α : Type} {l : Layout} {base : Path} {production : Bool} {t₀ : FileTree} {s : State}
  {p : Path} {names : List String}

/-- Steps that keep a site guarded, however they end. -/
abbrev Guards (l : Layout) (base : Path) (production : Bool) (t₀ : FileTree) (Q : α → Prop)
    (x : Build α) : Prop :=
  Keeps (Guarded l base production t₀) (fun _ _ => True) Q x

theorem guards_onFiles {p : Path} {x : FileTree.Op α}
    (keeps : Op.KeepsFence l.output (LinkPlace production) t₀ x) :
    Guards l base production t₀ (fun _ => True) (onFiles p x) :=
  keeps_onFiles
    (fun _ _ _ guarded ran => ⟨{ guarded with files := (keeps.ok guarded.files ran).1 }, trivial⟩)
    fun _ _ _ guarded ran => ⟨{ guarded with files := (keeps.error guarded.files ran).1 }, trivial⟩

theorem guards_note (line : String) : Guards l base production t₀ (fun _ => True) (note line) :=
  .modify fun _ guarded => { guarded with }

theorem guards_noteCompiled (path : String) :
    Guards l base production t₀ (fun _ => True) (noteCompiled path) :=
  .modify fun _ guarded => { guarded with }

theorem guards_readFile (p : Path) : Guards l base production t₀ (fun _ => True) (readFile p) :=
  guards_onFiles (Op.maintains_content p)

/-- A file may be written where no link may be in the way. -/
theorem guards_writeFile (apart : Apart l base) (clear : Clear production names)
    (proper : ∀ name ∈ names, IsSegment name ∧ name ≠ "..") (some : names ≠ []) (content : Bytes) :
    Guards l base production t₀ (fun _ => True) (writeFile (l.output.append names) content) := by
  refine guards_onFiles (Op.fence_write (within_append apart.output clear proper some) ?_
    (free_temporary _) content)
  rw [Path.parent_append some]
  exact Path.isBelow_append ..

/-! ## Publications -/

/-- The file of a publication lies beside its path. -/
theorem outputFile_physical (l : Layout) (store : Asset.Store) (proper : p.IsProper)
    (below : p ≠ Path.root) (content : Bytes) : ∃ name, (p.withName name).IsProper ∧
      l.outputFile (store.physical p.text content) = l.output.append (p.withName name).segments := by
  unfold Asset.Store.physical
  split
  · have digested := Asset.digestPath_isProper proper (Digest.ofContent_isShort content)
    rw [Asset.fingerprinted_text proper.plain below]
    exact ⟨_, digested, l.outputFile_text digested.plain⟩
  · have itself : p.withName p.name = p := Path.child_parent below
    exact ⟨p.name, itself.symm ▸ proper, itself.symm ▸ l.outputFile_text proper.plain⟩

theorem Guarded.published (guarded : Guarded l base production t₀ s) (apart : Apart l base)
    (proper : p.IsProper) (below : p ≠ Path.root) (clear : Clear production p.segments)
    (content : Bytes) : Guarded l base production t₀ (s.published p.text content) where
  layout := guarded.layout
  base := guarded.base
  mode := guarded.mode
  files := guarded.files
  indexed := guarded.indexed
  named := guarded.named
  stored path old found := by
    rw [get?_published] at found
    split at found
    · obtain ⟨name, proper', file⟩ := outputFile_physical l s.store proper below content
      rw [← Option.some.inj found, file]
      have some : p.segments ≠ [] := fun none => below (congrArg Path.mk none)
      exact within_append apart.output (clear.beside some name) proper' (by simp [Path.withName])
    · exact guarded.stored path old found

/-- A publication writes beside its path. -/
theorem guards_publish (apart : Apart l base) (proper : p.IsProper) (below : p ≠ Path.root)
    (clear : Clear production p.segments) (content : Bytes) :
    Guards l base production t₀ (· = l.outputFile p.text) (publish p.text content) := by
  have some : p.segments ≠ [] := fun none => below (congrArg Path.mk none)
  refine keeps_publish (fun _ guarded => guarded.layout)
    (fun s guarded => guarded.published apart proper below clear content) (fun s guarded => ?_)
    (fun s old guarded found => guards_onFiles (Op.fence_remove (guarded.stored _ _ found)))
    guards_noteCompiled
  obtain ⟨name, proper', file⟩ := outputFile_physical l s.store proper below content
  rw [file]
  exact guards_writeFile apart (clear.beside some name) proper' (by simp) content

section Sources

variable {Named : String → Prop}
  (named : ∀ source files, s.dependencies.edges.lookup source = some files → Named source)

include named

/-- Of what is made only the source may be new to the dependency index. -/
theorem named_made {kind : Kind} {files : List String} {lookups : Names}
    (fits : Named (normalize s.base p.text)) (source : String) (files' : List String)
    (found : (s.made kind p files lookups).dependencies.edges.lookup source = some files') :
    Named source := by
  simp only [State.made, lookup_edges_record] at found
  split at found
  · next same => exact same ▸ fits
  · exact named source files' found

theorem named_forget (name source : String) (files : List String)
    (found : (s.dependencies.forget s.base name).edges.lookup source = some files) :
    Named source := by
  rw [lookup_edges_forget] at found
  split at found
  · cases found
  · exact named source files found

theorem named_dependents (indexed : Indexed s.dependencies) {file source : String}
    (listed : source ∈ s.dependencies.dependentsOf s.base file) : Named source := by
  obtain ⟨files, found⟩ := Option.isSome_iff_exists.1 (indexed.isSome_of_mem_dependentsOf listed)
  exact named source files found

end Sources

theorem Guarded.made (guarded : Guarded l base production t₀ s) (kind : Kind) (proper : p.IsProper)
    (files : List String) (names : Names) :
    Guarded l base production t₀ (s.made kind p files names) :=
  { guarded with
    indexed := guarded.indexed.replace _ _
    named := named_made guarded.named ⟨p, proper, (proper.normalize_eq s.base).symm⟩ }

/-! ## Sources -/

/-- Whether a source can be taken through a craft with the site guarded. -/
abbrev Takes (l : Layout) (base : Path) (production : Bool) (t₀ : FileTree) (craft : Craft)
    (p : Path) : Prop :=
  craft.Takes (Guarded l base production t₀) (fun _ _ => True) p

/-- The segments of a proper path below a directory are proper. -/
theorem proper_below {d : Path} (proper : (d.append names).IsProper) :
    ∀ name ∈ names, IsSegment name ∧ name ≠ ".." :=
  fun name member => proper name (List.mem_append_right _ member)

theorem scriptCraft_guards (apart : Apart l base) (proper : p.IsProper) :
    Takes l base production t₀ scriptCraft p := by
  refine takes_script (fun _ guarded => guarded.layout) (guards_readFile p) (fun _ _ _ => trivial)
    (fun segments below => ?_) fun s lookups guarded => guarded.made .asset proper [] lookups
  subst below
  have place : (Path.mk ("assets" :: "js" :: segments)).IsProper := by
    simpa [Path.IsProper] using ⟨by decide, by decide, proper_below proper⟩
  exact guards_publish apart place (by simp [Path.root]) (clear_assets (by decide) segments)

theorem outputName_plain {name : String} (plain : '/' ∉ name.toList) :
    IsSegment (Style.outputName name) ∧ Style.outputName name ≠ ".." := by
  have long {s : String} (short : s.toList.length < 4) : Style.outputName name ≠ s := by
    rintro rfl
    simp [Style.outputName] at short
  have inside : '/' ∉ (Name.stem name).toList := by
    intro member
    unfold Name.stem Name.splitExtension at member
    rw [String.toList_ofList] at member
    dsimp only at member
    split at member
    · exact plain member
    · exact plain (List.mem_of_mem_take member)
  refine ⟨⟨long (by decide), long (by decide), ?_⟩, long (by decide)⟩
  simp [Style.outputName, inside]

/-- What is made of a stylesheet has a proper path. -/
theorem sheetNames_isProper (proper : (l.styles.append names).IsProper) :
    (Path.mk (sheetNames names)).IsProper := by
  have place : (Path.mk ("assets" :: "css" :: names)).IsProper := by
    simpa [Path.IsProper] using ⟨by decide, by decide, proper_below proper⟩
  intro name member
  rcases List.mem_append.1 member with member | member
  · exact place name (List.dropLast_subset _ member)
  · exact List.mem_singleton.1 member ▸ outputName_plain (Op.slash_not_mem_name place)

theorem clear_sheetNames (names : List String) : Clear production (sheetNames names) :=
  (clear_assets (by decide) names).beside (by simp) _

theorem styleCraft_guards (apart : Apart l base) (proper : p.IsProper) :
    Takes l base production t₀ styleCraft p := by
  refine takes_style (fun _ guarded => guarded.layout) (fun _ _ _ => trivial) (fun _ _ _ => trivial)
    (fun segments below => ?_) fun s lookups guarded => guarded.made .asset proper [] lookups
  subst below
  exact guards_publish apart (sheetNames_isProper proper)
    (fun top => sheetNames_ne_nil segments (congrArg Path.segments top)) (clear_sheetNames segments)

/-- Where images are linked a link may be put at the place of one in the output. -/
theorem guards_linkImage (apart : Apart l base) (proper : (l.images.append names).IsProper)
    (image : isImageName (l.images.append names).name = true)
    (clear : Clear production ("assets" :: "img" :: names)) (mode : ¬ production = true)
    (target : Path) : Guards l base production t₀ (fun _ => True)
      (linkFile target (l.output.append ("assets" :: "img" :: names))) := by
  have place : ∀ name ∈ "assets" :: "img" :: names, IsSegment name ∧ name ≠ ".." := by
    simpa using ⟨by decide, by decide, proper_below proper⟩
  have holds : LinkPlace production ("assets" :: "img" :: names) := by
    rcases List.eq_nil_or_concat names with rfl | ⟨above, name, rfl⟩
    · rw [Path.append_nil, Layout.images, Path.name_child] at image
      exact absurd image (by decide)
    · rw [List.concat_eq_append, ← Path.append_append] at image
      replace image : isImageName ((l.images.append above).child name).name = true := image
      rw [Path.name_child] at image
      simp [LinkPlace, isLinkPlace, image, mode]
  exact guards_onFiles (Op.fence_link (within_append apart.output clear place (by simp)) (by simp)
    holds target)

/-- An image may be taken if no link may lie on the way to its place in the output. -/
theorem imageCraft_guards (apart : Apart l base) (proper : p.IsProper)
    (image : isImageName p.name = true)
    (clear : ∀ names, l.images.append names = p → Clear production ("assets" :: "img" :: names)) :
    Takes l base production t₀ imageCraft p := by
  refine takes_image (fun _ guarded => guarded.layout) guards_noteCompiled (guards_readFile p)
    (fun _ _ _ => trivial) (fun segments below => ?_) fun s guarded mode segments below => ?_
  · replace clear := clear segments below
    subst below
    have place : (Path.mk ("assets" :: "img" :: segments)).IsProper := by
      simpa [Path.IsProper] using ⟨by decide, by decide, proper_below proper⟩
    exact guards_publish apart place (by simp [Path.root]) clear
  · replace clear := clear segments below
    subst below
    exact guards_linkImage apart proper image clear (guarded.mode ▸ mode) _

theorem guards_publishVendor (apart : Apart l base) :
    Guards l base production t₀ (fun _ => True) publishVendor := by
  have plain : ∀ name ∈ ["vendor"], IsSegment name ∧ name ≠ ".." := by decide
  refine keeps_publishVendor (fun _ guarded => guarded.layout) guards_noteCompiled
    fun s guarded _ => ?_
  rw [guarded.mode]
  split
  · next mode =>
    subst mode
    have nowhere : LinkPlace true = fun _ => False :=
      funext fun names => by simp [isLinkPlace_production]
    refine guards_onFiles ?_
    rw [nowhere]
    refine Op.fence_copy (apart.output.append plain) (Path.isBelow_append ..) ?_
    rw [Layout.vendor, Path.name_child]
    decide
  · next mode =>
    have clear : Clear production ["vendor"] := fun n short => by
      obtain rfl : n = 0 := by simpa using short
      rfl
    have holds : LinkPlace production ["vendor"] := by
      simpa [LinkPlace, isLinkPlace] using mode
    exact guards_onFiles (Op.fence_link (within_append apart.output clear plain (by simp)) (by simp)
      holds _)

theorem guards_clean (apart : Apart l base) :
    Guards l base production t₀ (fun _ => True) clean := by
  refine .get_bind fun s guarded => ?_
  rw [guarded.layout]
  have below : l.output ≠ Path.root := by
    intro top
    have under : l.source.isBelow l.output = true := top ▸ Path.isBelow_append Path.root _
    exact absurd (apart.below.symm.trans under) Bool.false_ne_true
  refine (guards_onFiles (Op.fence_resetDirectory apart.output below)).bind fun _ _ => ?_
  refine .modify fun s guarded => { guarded with
    indexed := indexed_empty
    named := fun _ _ found => ?_
    stored := fun _ _ found => ?_ }
  · cases found
  · cases found

/-! ## Sources that stay -/

namespace Apart

theorem views (apart : Apart l base) : l.views.IsProper :=
  Layout.views_isProper apart.source

theorem scripts (apart : Apart l base) : l.scripts.IsProper :=
  Layout.scripts_isProper apart.source

theorem styles (apart : Apart l base) : l.styles.IsProper :=
  Layout.styles_isProper apart.source

theorem images (apart : Apart l base) : l.images.IsProper :=
  Layout.images_isProper apart.source

theorem not_isBelow (apart : Apart l base)
    (near : p.isBelow l.source = true ∨ l.source.isBelow p = true) : p.isBelow l.output = false := by
  rw [Bool.eq_false_iff]
  intro below
  rcases near with inside | above
  · rcases Path.isBelow_total below inside with one | two
    · exact absurd (apart.above.symm.trans one) Bool.false_ne_true
    · exact absurd (apart.below.symm.trans two) Bool.false_ne_true
  · exact absurd (apart.below.symm.trans (Path.isBelow_trans above below)) Bool.false_ne_true

end Apart

namespace Guarded

theorem get?_eq (guarded : Guarded l base production t₀ s) (apart : Apart l base)
    (inside : p.isBelow l.source = true) : s.files.get? p = t₀.get? p := by
  refine guarded.files.kept p (apart.not_isBelow (Or.inl inside)) ?_
  rw [Bool.eq_false_iff]
  exact fun above => absurd (apart.above.symm.trans (Path.isBelow_trans above inside))
    Bool.false_ne_true

theorem plain (guarded : Guarded l base production t₀ s) (apart : Apart l base)
    (plain : t₀.PlainBelow l.source) : s.files.PlainBelow l.source where
  directory := apart.source
  proper p e found _ := guarded.files.proper p e found
  linkless p near := by
    rintro ⟨target, found⟩
    by_cases above : l.output.isBelow p = true
    · exact guarded.files.way p above ⟨target, found⟩
    · rw [guarded.files.kept p (apart.not_isBelow near) (Bool.eq_false_iff.2 above)] at found
      exact plain.linkless p near ⟨target, found⟩

/-- A file among the sources was there at the start. -/
theorem exists_get? (guarded : Guarded l base production t₀ s) (apart : Apart l base)
    (tame : Tame l t₀) (proper : p.IsProper) (inside : p.isBelow l.source = true)
    (file : s.files.isFile p = true) : ∃ e, t₀.get? p = some e := by
  obtain ⟨content, named⟩ := isFile_iff.1 file
  have there := (guarded.plain apart tame.plain).get? proper inside named
  exact ⟨_, guarded.get?_eq apart inside ▸ there⟩

end Guarded

theorem Clear.of_linked (clear : Clear false names) : Clear production names := by
  cases production with
  | false => exact clear
  | true => exact clear_production names

variable (apart : Apart l base) (settled : production = true ∨ Tame l t₀)

include apart settled

/-- No link may lie on the way to the page of a file. -/
theorem Guarded.clear_page (guarded : Guarded l base production t₀ s) (proper : p.IsProper)
    (file : s.files.isFile p = true) (names : List String) (below : l.views.append names = p) :
    Clear production names := by
  rcases settled with rfl | tame
  · exact clear_production names
  · subst below
    have inside : (l.views.append names).isBelow l.source = true :=
      Path.isBelow_trans (Path.isBelow_append ..) (Path.isBelow_child ..)
    obtain ⟨e, there⟩ := guarded.exists_get? apart tame proper inside file
    exact (tame.views names e there).of_linked

theorem Guarded.clear_image (guarded : Guarded l base production t₀ s) (proper : p.IsProper)
    (file : s.files.isFile p = true) (names : List String) (below : l.images.append names = p) :
    Clear production ("assets" :: "img" :: names) := by
  rcases settled with rfl | tame
  · exact clear_production _
  · subst below
    have inside : (l.images.append names).isBelow l.source = true :=
      Path.isBelow_trans (Path.isBelow_append ..)
        (Path.isBelow_trans (Path.isBelow_child ..) (Path.isBelow_child ..))
    obtain ⟨e, there⟩ := guarded.exists_get? apart tame proper inside file
    exact (tame.images names e there).of_linked

omit settled in
theorem Guarded.root_proper (guarded : Guarded l base production t₀ s) (listed : p ∈ s.roots) :
    p.IsProper := by
  obtain ⟨q, template, rfl⟩ := List.mem_map.1 listed
  have proper := guarded.files.mem_filesBelow (guarded.layout ▸ apart.views)
    (List.mem_filter.1 template).1
  exact resolve_isProper proper.segmented

/-- Whether a name is the text of a proper path. -/
def IsProperName (name : String) : Prop :=
  ∃ p : Path, p.IsProper ∧ p.text = name

omit apart settled in
theorem Guarded.forget (guarded : Guarded l base production t₀ s) (name : String) :
    Guarded l base production t₀ { s with dependencies := s.dependencies.forget s.base name } :=
  { guarded with
    indexed := guarded.indexed.forget name
    named := named_forget guarded.named name }

theorem guarded_rules : Rules (Guarded l base production t₀) (fun _ _ => True) l base IsProperName where
  layout_eq _ guarded := guarded.layout
  base_eq _ guarded := guarded.base
  note := guards_note
  routes _ _ guarded := { guarded with }
  forget _ name guarded := guarded.forget name
  vendor := guards_publishVendor apart
  scripts s guarded p listed := scriptCraft_guards apart
    (guarded.files.mem_filesBelow (guarded.layout ▸ apart.scripts) (List.mem_filter.1 listed).1)
  styles s guarded p listed := styleCraft_guards apart
    (guarded.files.mem_filesBelow (guarded.layout ▸ apart.styles) (List.mem_filter.1 listed).1)
  images s guarded p listed := by
    obtain ⟨below, image⟩ := List.mem_filter.1 listed
    have proper := guarded.files.mem_filesBelow (guarded.layout ▸ apart.images) below
    exact imageCraft_guards apart proper (Bool.and_eq_true_iff.1 image).1
      (guarded.clear_image apart settled proper (List.mem_filter.1 below).2)
  roots s guarded p listed := ⟨p, guarded.root_proper apart listed, rfl⟩
  dependents s file guarded d listed := named_dependents guarded.named guarded.indexed listed
  existing s name guarded named := by
    obtain ⟨p, proper, rfl⟩ := named
    rw [proper.ofText_eq]
    exact fun _ => ⟨fun _ => scriptCraft_guards apart proper, fun _ => styleCraft_guards apart proper⟩

/-- Whether a change is one of a path among the sources, and none of an image in a directory that has
the name of an image. -/
structure Change.Lies (l : Layout) (base : Path) (c : Change) : Prop where
  proper : (Path.ofText base c.path).IsProper
  inside : (Path.ofText base c.path).isBelow l.source = true
  clear : ∀ names, l.images.append names = Path.ofText base c.path →
    Clear false ("assets" :: "img" :: names)

theorem guards_located {c : Change} (lies : production = true ∨ c.Lies l base) :
    Guards l base production t₀
      (Handles (Guarded l base production t₀) (fun _ _ => True) l IsProperName)
      (realPathOf (Path.ofText base c.path)) := by
  refine keeps_realPathOf (fun s q guarded found => ?_) fun _ _ _ _ => trivial
  have proper : q.IsProper :=
    realPath_isProper (apart.base.segmented.ofText c.path) (realPath_ok_iff.1 found)
  refine ⟨fun _ => ⟨q, proper, rfl⟩, fun _ => scriptCraft_guards apart proper, fun _ image => ?_⟩
  refine imageCraft_guards apart proper image fun names below => ?_
  rcases settled with rfl | tame
  · exact clear_production _
  · rcases lies with rfl | lies
    · exact clear_production _
    · have place := realPath_eq_resolve (realPath_ok_iff.1 found)
      rw [(guarded.plain apart tame.plain).resolve_eq lies.proper lies.inside] at place
      exact (lies.clear names (below.trans place.symm)).of_linked

/-! ## Pages -/

omit apart settled in
theorem guards_compilePage (proper : p.IsProper) :
    Guards l base production t₀ (fun _ => True) (compilePage p []) := by
  refine keeps_compilePage (keeps_realPathOf (fun _ _ _ found => ?_) fun _ _ _ _ => trivial)
    fun q proper s files lookups guarded => guarded.made .page proper files lookups
  exact realPath_isProper proper.segmented (realPath_ok_iff.1 found)

omit settled in
/-- A page file may be written if no link may lie on the way to what lies beside its template. -/
theorem guards_writePage (clear : Clear production names)
    (plain : ∀ name ∈ names, IsSegment name ∧ name ≠ "..") (content : Bytes) :
    Guards l base production t₀ (fun _ => True) (writeFile (l.pageFile names) content) := by
  have named := (pageName_plain (getLast?_isProper plain)).1
  have place : Clear production (names.dropLast ++ [View.pageName (names.getLast?.getD "")]) := by
    by_cases none : names = []
    · subst none
      intro n short
      obtain rfl : n = 0 := by simpa using short
      rfl
    · exact clear.beside none _
  have file : l.pageFile names =
      l.output.append (names.dropLast ++ [View.pageName (names.getLast?.getD "")]) :=
    Path.append_append ..
  rw [file]
  refine guards_writeFile apart place (fun name member => ?_) (by simp) content
  rcases List.mem_append.1 member with member | member
  · exact plain name (List.dropLast_subset _ member)
  · exact List.mem_singleton.1 member ▸ named

omit settled in
/-- A page may be rendered if no link may lie on the way to it. -/
theorem guards_addPage {r : StageResult} (proper : p.IsProper)
    (clear : ∀ names, l.views.append names = p → Clear production names) :
    Guards l base production t₀ (fun _ => True) (addPage p r) := by
  refine keeps_addPage (fun _ guarded => guarded.layout) (guards_compilePage proper)
    (keeps_failWith guards_note r) (fun segments below => ?_) guards_noteCompiled
    fun _ _ _ _ => trivial
  replace clear := clear segments below
  subst below
  exact guards_writePage apart clear (proper_below proper)

/-! ## Builds and batches -/

theorem Guarded.clear_root (guarded : Guarded l base production t₀ s) (listed : p ∈ s.roots)
    (names : List String) (below : l.views.append names = p) : Clear production names := by
  rcases settled with rfl | tame
  · exact clear_production names
  · have views : s.files.PlainBelow s.layout.views :=
      guarded.layout.symm ▸ (guarded.plain apart tame.plain).mono apart.views (Path.isBelow_child ..)
    obtain ⟨proper, -, file, -⟩ := (mem_roots views).1 listed
    exact guarded.clear_page apart (Or.inr tame) proper file names below

theorem guards_buildCleaned (schedule : Schedule) :
    Guards l base production t₀ (fun _ => True) (do
      let assets ← buildCleaned schedule
      let pages ← compileAllPages
      let report := assets.append pages
      if !report.ok then note s!"Build finished with {report.failures.length} error(s)"
      return report) := by
  refine (guarded_rules apart settled).buildPages schedule fun s guarded root listed r => ?_
  exact guards_addPage apart (guarded.root_proper apart listed)
    (guarded.clear_root apart settled listed)

theorem guards_handle {changes : List Change}
    (lie : ∀ c ∈ changes, production = true ∨ c.Lies l base) :
    Guards l base production t₀ (fun _ => True) (handle changes) := by
  refine (guarded_rules apart settled).handle
    (fun c member => guards_located apart settled (lie c member)) fun s name guarded named => ?_
  obtain ⟨p, proper, rfl⟩ := named
  rw [proper.ofText_eq]
  exact fun file r => guards_addPage apart proper (guarded.clear_page apart settled proper file)

theorem guards_buildProject (schedule : Schedule) :
    Guards l base production t₀ (fun _ => True) (buildProject schedule) := by
  rw [buildProject_eq_clean]
  exact (guards_clean apart).bind fun _ _ => guards_buildCleaned apart settled schedule

end Steps

end Folio.Build
