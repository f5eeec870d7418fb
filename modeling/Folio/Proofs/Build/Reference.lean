import Folio.Proofs.Build.Project
import Folio.Proofs.Script.Constant
import Folio.Style.Evaluate

/-!
# References to assets in pages, scripts and stylesheets

A page, a script and a stylesheet that ask `asset_path` for one name are given one published path
and look up one logical path (`references_agree`). A page and a script take the name as it is. A
stylesheet takes it out of its argument: blanks at the ends are removed and then quotes, so the
name is the argument itself unless one of those stands at an end.
-/

namespace Folio

open Text

/-! ## Trimmed texts -/

namespace Text

variable {p q : Char → Bool} {s : List Char}

theorem trimEnd_isPrefix (p : Char → Bool) (s : List Char) : trimEnd p s <+: s := by
  have suffix := List.dropWhile_suffix p (l := s.reverse)
  rwa [← List.reverse_prefix, List.reverse_reverse] at suffix

theorem trimBy_isInfix (p : Char → Bool) (s : List Char) : trimBy p s <:+: s :=
  (trimEnd_isPrefix p _).isInfix.trans (List.dropWhile_suffix p).isInfix

theorem trimStart_eq_self_iff : trimStart p s = s ↔ ∀ c, s.head? = some c → p c = false := by
  cases s with
  | nil => simp [trimStart]
  | cons c r =>
    rw [trimStart, List.dropWhile_cons]
    by_cases dropped : p c = true
    · have shorter : List.dropWhile p r ≠ c :: r := fun same => by
        have le := (same ▸ List.dropWhile_suffix p (l := r)).length_le
        exact absurd le (Nat.not_succ_le_self _)
      simp [dropped, shorter]
    · simp [dropped]

theorem trimEnd_eq_self_iff : trimEnd p s = s ↔ ∀ c, s.getLast? = some c → p c = false := by
  rw [trimEnd, List.reverse_eq_iff, ← List.head?_reverse]
  exact trimStart_eq_self_iff

theorem trimBy_eq_self_iff :
    trimBy p s = s ↔ ∀ c, s.head? = some c ∨ s.getLast? = some c → p c = false := by
  constructor
  · intro same
    have start : trimStart p s = s := (List.dropWhile_suffix p).eq_of_length_le
      ((congrArg List.length same).ge.trans (trimEnd_isPrefix p (trimStart p s)).length_le)
    rw [trimBy, start, trimEnd_eq_self_iff] at same
    rintro c (first | last)
    · exact trimStart_eq_self_iff.1 start c first
    · exact same c last
  · intro kept
    rw [trimBy, trimStart_eq_self_iff.2 fun c first => kept c (Or.inl first)]
    exact trimEnd_eq_self_iff.2 fun c last => kept c (Or.inr last)

theorem trimBy_trimBy_eq_self_iff : trimBy q (trimBy p s) = s ↔
    ∀ c, s.head? = some c ∨ s.getLast? = some c → p c = false ∧ q c = false := by
  constructor
  · intro same c stands
    have first : trimBy p s = s := (trimBy_isInfix p s).eq_of_length_le
      ((congrArg List.length same).ge.trans (trimBy_isInfix q (trimBy p s)).length_le)
    rw [first] at same
    exact ⟨trimBy_eq_self_iff.1 first c stands, trimBy_eq_self_iff.1 same c stands⟩
  · intro kept
    rw [trimBy_eq_self_iff.2 fun c stands => (kept c stands).1,
      trimBy_eq_self_iff.2 fun c stands => (kept c stands).2]

theorem head?_trimBy {c : Char} (kept : p c = false) (first : s.head? = some c) :
    (trimBy p s).head? = some c := by
  obtain ⟨r, rfl⟩ := List.head?_eq_some_iff.1 first
  have start : trimStart p (c :: r) = c :: r := trimStart_eq_self_iff.2 fun _ same => by
    cases same
    exact kept
  rw [trimBy, start, trimEnd, List.reverse_cons, List.dropWhile_append]
  split <;> simp [kept]

end Text

/-! ## What a stylesheet asks for -/

namespace Asset

theorem Category.head?_directory (c : Category) (rest : List Char) :
    (c.directory.toList ++ rest).head? = some '/' := by
  cases c <;> rfl

theorem Category.eq_of_directory_append {c c' : Category} {a b : List Char}
    (same : c.directory.toList ++ '/' :: a = c'.directory.toList ++ '/' :: b) : a = b := by
  cases c <;> cases c' <;> simp [directory] at same <;> exact same

/-- What a name of no given category stands for: itself, or a file of its category. -/
theorem toList_logicalPath (name : String) : (logicalPath name none).toList = name.toList ∨
    name.toList.head? ≠ some '/' ∧ ∃ c : Category,
      (logicalPath name none).toList = c.directory.toList ++ '/' :: name.toList := by
  unfold logicalPath
  split
  · exact Or.inl rfl
  · next relative =>
    cases categoryOf name with
    | none => exact Or.inl rfl
    | some c =>
      refine Or.inr ⟨fun absolute => relative ?_, c, ?_⟩
      · obtain ⟨r, spelled⟩ := List.head?_eq_some_iff.1 absolute
        rw [spelled]
        rfl
      · simp

end Asset

namespace Style

namespace Function

/-- Whether a character is removed from the ends of an argument. -/
def isWrapping (c : Char) : Bool :=
  isBlank c || (c == '"' || c == '\'')

/-- Whether an argument is the name that it asks for. -/
def isBare (argument : String) : Bool :=
  !(argument.toList.head?.any isWrapping || argument.toList.getLast?.any isWrapping)

theorem isBare_iff {argument : String} : isBare argument = true ↔
    ∀ c, argument.toList.head? = some c ∨ argument.toList.getLast? = some c →
      isWrapping c = false := by
  rw [isBare]
  cases argument.toList.head? <;> cases argument.toList.getLast? <;> simp [forall_and, or_imp]

theorem toList_unquote (argument : String) : (unquote argument).toList =
    trimBy (fun c => c == '"' || c == '\'') (trimBy isBlank argument.toList) :=
  String.toList_ofList

theorem unquote_eq_self_iff {argument : String} :
    unquote argument = argument ↔ isBare argument = true := by
  rw [← String.toList_inj, toList_unquote, trimBy_trimBy_eq_self_iff, isBare_iff]
  simp only [isWrapping, Bool.or_eq_false_iff]

theorem length_unquote_le (argument : String) :
    (unquote argument).toList.length ≤ argument.toList.length := by
  rw [toList_unquote]
  exact (trimBy_isInfix _ _).length_le.trans (trimBy_isInfix _ _).length_le

/-- A path that is absolute stays so. -/
theorem head?_unquote {argument : String} (absolute : argument.toList.head? = some '/') :
    (unquote argument).toList.head? = some '/' := by
  rw [toList_unquote]
  exact head?_trimBy (by decide) (head?_trimBy (by decide) absolute)

theorem lookup_eq_iff {name : String} :
    lookup name = Asset.logicalPath name none ↔ isBare name = true := by
  rw [← unquote_eq_self_iff]
  refine ⟨fun same => ?_, fun bare => congrArg (Asset.logicalPath · none) bare⟩
  have shorter := length_unquote_le name
  have absolute := @head?_unquote name
  unfold lookup at same
  generalize unquote name = u at *
  rw [← String.toList_inj] at same ⊢
  rcases Asset.toList_logicalPath u with short | ⟨relative, c, short⟩ <;>
    rcases Asset.toList_logicalPath name with long | ⟨-, c', long⟩ <;> rw [short, long] at same
  · exact same
  · rw [same, List.length_append, List.length_cons] at shorter
    omega
  · exact absurd (absolute (same ▸ c.head?_directory _)) relative
  · exact Asset.Category.eq_of_directory_append same

end Function

theorem callAsset_plain (setting : Setting) (f : Function) (here : Location) {v : Value}
    {argument : String} (asked : v.string? = some argument) (looked : List String) :
    callAsset setting f f.name here [(none, v)] looked =
      .ok (.text (String.ofList (joinLines (f.apply setting.resolve argument).toList)),
        Function.lookup argument :: looked) := by
  have bound : bindArguments f.name ["asset"] [(none, v)] = .ok [v] := rfl
  unfold callAsset
  rw [bound]
  simp [Evaluation.at_, asked]
  rfl

end Style

/-! ## What a template asks for -/

namespace Template

theorem assetPath_eq (site : Site) {name path published : String}
    (names : Asset.logicalPath name none = path)
    (found : (site.published path).getD path = published) (isMarkup : Bool) (trace : Trace) :
    ∃ value, assetPath site name isMarkup trace =
        .ok (value, { trace with lookups := path :: trace.lookups }) ∧
      (value = .text published ∨ value = .markup published) := by
  subst names found
  unfold assetPath
  cases site.published (Asset.logicalPath name none) with
  | some published => exact ⟨.text published, rfl, Or.inl rfl⟩
  | none =>
    cases isMarkup with
    | false => exact ⟨_, rfl, Or.inl rfl⟩
    | true => exact ⟨_, rfl, Or.inr rfl⟩

end Template

/-! ## What a script asks for -/

namespace Script

/-- The literal in place of a node, where calls are answered by `answer`. -/
def Node.literalWith (routes : List (String × String)) (answer : Call → String) :
    Node → Option String
  | .reference r => (routes.lookup r.name).map quote
  | .call c => some (quote (answer c))

theorem answered_map (routes : List (String × String)) (answer : Call → String)
    (nodes : List Node) : answered routes nodes ((Node.calls nodes).map answer) =
      nodes.map fun n => (n, n.literalWith routes answer) := by
  induction nodes with
  | nil => rfl
  | cons n nodes ih => cases n <;> simp [answered, ih, Node.literalWith]

theorem run_mapM_askNoting (resolve : String → String) (requests : List Request)
    (looked : List String) : (requests.mapM (askNoting resolve)).run looked =
      (requests.map fun q => resolve q.path, (requests.map Request.path).reverse ++ looked) := by
  induction requests generalizing looked with
  | nil => rfl
  | cons q requests ih =>
    rw [List.mapM_cons]
    simp [askNoting, ih]
    rfl

theorem misuse_of_forall_isProper {calls : List Call}
    (proper : ∀ c ∈ calls, c.isProper = true) : misuse calls = none := by
  have fine : calls.find? (!·.isProper) = none :=
    List.find?_eq_none.2 fun c member => by simp [proper c member]
  rw [misuse, fine, Option.bind_none]

/-- A script without misused calls gets a literal for each call and for each reference to a route,
and looks up the path of each call. -/
theorem inject_of_forall_isProper (routes : List (String × String)) (resolve : String → String)
    {source : String} {tree : Tree} (parsed : parse helperNames source.toList = .ok tree)
    (proper : ∀ c ∈ tree.calls, c.isProper = true) :
    ∃ output, inject routes resolve source =
        .ok ⟨String.ofList output, tree.calls.map (·.question.path)⟩ ∧
      Spliced 0 (tree.walk.map fun n =>
        (n, n.literalWith routes (resolve ·.question.path))) source.toList output := by
  obtain ⟨same, calls, -, separate, -⟩ := parse_placed parsed
  let answers := tree.calls.map (resolve ·.question.path)
  have texts : answered routes tree.walk answers =
      tree.walk.map fun n => (n, n.literalWith routes (resolve ·.question.path)) := by
    rw [← answered_map, calls]
  have ran : (injectWith routes (askNoting resolve) source).run.run [] =
      (.ok (String.ofList (tree.substitute (answered routes tree.walk answers))),
        (tree.calls.map (·.question.path)).reverse) := by
    rw [run_injectWith routes (askNoting resolve) parsed, misuse_of_forall_isProper proper,
      asked_of_forall_isProper proper, StateT.run_bind, run_mapM_askNoting, List.map_map,
      List.map_map, List.append_nil]
    rfl
  refine ⟨tree.substitute (answered routes tree.walk answers), ?_, ?_⟩
  · rw [inject, ran]
    exact congrArg (fun asked => Except.ok (⟨_, asked⟩ : Injected)) (List.reverse_reverse _)
  · rw [← texts, Tree.substitute, same]
    exact render_spliced (by rwa [answered_fst])

end Script

namespace Build

open Template Script

/-- A page, a script and a stylesheet agree on what an asset's name stands for: what they look up
and where it is published. A stylesheet removes blanks and quotes from the ends of its argument
first; what it looks up for a name is the same just if the name has none there. -/
theorem references_agree (s : State) (name : String) :
    let path := Asset.logicalPath name none
    let published := s.store.resolve path
    (∀ argument trace, argument = .text name ∨ argument = .markup name →
      ∃ value, applyFunction s.templateSite .assetPath [argument] trace =
          .ok (value, { trace with lookups := path :: trace.lookups }) ∧
        (value = .text published ∨ value = .markup published)) ∧
    (∀ source tree, parse helperNames source.toList = .ok tree →
      (∀ c ∈ tree.calls, c.isProper = true) →
      ∃ texts output, inject s.routes s.store.resolve source =
          .ok ⟨String.ofList output, tree.calls.map (·.question.path)⟩ ∧
        Spliced 0 texts source.toList output ∧ texts.map Prod.fst = tree.walk ∧
        ∀ c text, (.call c, text) ∈ texts → c.callee.name = Helper.asset.name →
          c.literal? = some name → c.question.path = path ∧ text = some (quote published)) ∧
    literalUnits (quote published) = some (published.toList.flatMap codeUnits) ∧
    (∀ argument, Style.Function.unquote argument = name →
      Style.Function.assetPath.apply s.store.resolve argument = published ∧
      Style.Function.assetUrl.apply s.store.resolve argument = "url(\"" ++ published ++ "\")" ∧
      ∀ (setting : Style.Setting) (f : Style.Function) here v looked,
        setting.resolve = s.store.resolve → v.string? = some argument →
        Style.callAsset setting f f.name here [(none, v)] looked =
          .ok (.text (String.ofList (Style.joinLines (f.apply s.store.resolve argument).toList)),
            path :: looked)) ∧
    (Style.Function.lookup name = path ↔ Style.Function.isBare name = true) ∧
    (Style.Function.isBare name = true → Style.Function.unquote name = name) := by
  intro path published
  refine ⟨?_, ?_, literalUnits_quote published, ?_, Style.Function.lookup_eq_iff,
    Style.Function.unquote_eq_self_iff.2⟩
  · intro argument trace named
    have looked := @assetPath_eq s.templateSite name path published rfl rfl
    rcases named with rfl | rfl
    · exact looked false trace
    · exact looked true trace
  · intro source tree parsed proper
    obtain ⟨output, done, spliced⟩ :=
      inject_of_forall_isProper s.routes s.store.resolve parsed proper
    refine ⟨_, output, done, spliced, by simp [Function.comp_def], ?_⟩
    intro c text member called given
    obtain ⟨n, -, same⟩ := List.mem_map.1 member
    cases same
    have asks : c.question = ⟨name, none⟩ := by
      rw [Call.question, given, called]
      rfl
    rw [Node.literalWith, asks]
    exact ⟨rfl, rfl⟩
  · rintro argument rfl
    refine ⟨rfl, rfl, fun setting f here v looked resolves asked => ?_⟩
    rw [Style.callAsset_plain setting f here asked looked, resolves]
    rfl

/-- A site in production that has published a logo. -/
def logoSite : State :=
  (productionSite []).published "/assets/img/logo.svg" (Text.encode "1")

def publishedLogo : String := "/assets/img/logo-c4ca4238a0.svg"

/-- Page, script and stylesheet are given the published logo. -/
theorem references_agree_of_logo :
    (∃ value, applyFunction logoSite.templateSite .assetPath [.text "logo.svg"] ⟨[], [], []⟩ =
        .ok (value, ⟨[], ["/assets/img/logo.svg"], []⟩) ∧
      (value = .text publishedLogo ∨ value = .markup publishedLogo)) ∧
    (∃ output, inject logoSite.routes logoSite.store.resolve "asset_path('logo.svg')" =
      .ok ⟨output, ["/assets/img/logo.svg"]⟩) ∧
    Style.Function.assetUrl.apply logoSite.store.resolve " 'logo.svg' " =
      "url(\"" ++ publishedLogo ++ "\")" ∧
    Style.Function.lookup "logo.svg" = "/assets/img/logo.svg" := by
  have path : Asset.logicalPath "logo.svg" none = "/assets/img/logo.svg" := by decide +kernel
  have published : logoSite.store.resolve "/assets/img/logo.svg" = publishedLogo := by
    decide +kernel
  obtain ⟨page, script, -, style, bare, -⟩ := references_agree logoSite "logo.svg"
  rw [path] at page script style bare
  rw [published] at page style
  refine ⟨page (.text "logo.svg") ⟨[], [], []⟩ (Or.inl rfl), ?_,
    (style " 'logo.svg' " (by decide +kernel)).2.1, bare.2 (by decide +kernel)⟩
  have parsed : (match parse helperNames "asset_path('logo.svg')".toList with
      | .ok tree => tree.calls.all (·.isProper) &&
        tree.calls.map (·.question.path) == ["/assets/img/logo.svg"]
      | .error _ => false) = true := by decide +kernel
  split at parsed
  · next tree read =>
    obtain ⟨proper, asked⟩ := Bool.and_eq_true_iff.1 parsed
    obtain ⟨texts, output, done, -⟩ := script _ tree read (List.all_eq_true.1 proper)
    exact ⟨_, eq_of_beq asked ▸ done⟩
  · cases parsed

/-- A stylesheet does not ask for a name that begins with a blank: it asks for the rest. -/
theorem references_agree_fails :
    let name := " logo.svg"
    let asked := "/assets/img/ logo.svg"
    applyFunction logoSite.templateSite .assetPath [.text name] ⟨[], [], []⟩ =
        .ok (.text asked, ⟨[], [asked], []⟩) ∧
      inject logoSite.routes logoSite.store.resolve "asset_path(' logo.svg')" =
        .ok ⟨quote asked, [asked]⟩ ∧
      Style.Function.assetPath.apply logoSite.store.resolve name = publishedLogo ∧
      Style.Function.assetUrl.apply logoSite.store.resolve name =
        "url(\"" ++ publishedLogo ++ "\")" ∧
      Style.Function.lookup name = "/assets/img/logo.svg" := by
  refine ⟨rfl, ?_, ?_, ?_, ?_⟩ <;> decide +kernel

end Build

end Folio
