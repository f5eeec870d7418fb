import Folio.Proofs.Build.Affected
import Folio.Proofs.Build.Sources
import Folio.Proofs.Route
import Folio.Proofs.Script.Constant

/-!
# Route helpers in pages and scripts

A page binds a route helper to the route itself, unless the helper has the name of something that
the page is given after the routes. A script has a literal of the route for each reference to the
helper, and a script that is the bare helper is one such reference (`helpers_agree`).
-/

namespace Folio.Build

open Text Template

variable {s t u : State} {helper path : String}

/-! ## What a page sees -/

/-- The names of paths that a page is given after the routes. -/
def pagePathNames : List String :=
  ["asset_path", "canonical_path"]

theorem withValues_append (first second bindings : Variables) :
    withValues (first ++ second) bindings = withValues second (withValues first bindings) :=
  List.foldl_append

theorem lookup_withValues_of_not_mem {values : Variables} {name : String}
    (missing : name ∉ Table.keys values) (bindings : Variables) :
    (withValues values bindings).lookup name = bindings.lookup name := by
  induction values generalizing bindings with
  | nil => rfl
  | cons v values ih =>
    obtain ⟨other, missing⟩ := not_or.1 (mt List.mem_cons.2 missing)
    exact (ih missing _).trans (Table.lookup_put_of_ne other _ _)

theorem lookup_textValues (routes : Route.Table) (name : String) :
    (routes.map fun r => (r.1, Value.text r.2)).lookup name = (routes.lookup name).map .text := by
  induction routes with
  | nil => rfl
  | cons r routes ih =>
    rw [List.map_cons, List.lookup_cons, List.lookup_cons, ih]
    split <;> rfl

theorem lookup_siteVariables (nodup : (Table.keys s.routes).Nodup)
    (ends : Asset.endsWith helper "_path" = true) (found : s.routes.lookup helper = some path) :
    s.siteVariables.lookup helper = some (.text path) := by
  have own : helper ∉ Table.keys [("routes", Value.table (.ofList
      (s.routes.map fun r => (r.1, Value.text r.2)))), ("squish", .function .squish)] := by
    simp only [Table.keys, List.map_cons, List.map_nil, List.mem_cons, List.not_mem_nil, or_false]
    rintro (rfl | rfl) <;> exact absurd ends (by decide)
  have keys : (Table.keys (s.routes.map fun r => (r.1, Value.text r.2))).Nodup := by
    rw [Table.keys, List.map_map]
    exact nodup
  unfold State.siteVariables
  rw [withValues_append, lookup_withValues_of_not_mem own]
  refine (Table.lookup_foldl_put_of_nodup keys _ _).trans ?_
  rw [lookup_textValues, found]
  rfl

theorem lookup_pageVariables (nodup : (Table.keys s.routes).Nodup)
    (ends : Asset.endsWith helper "_path" = true) (found : s.routes.lookup helper = some path)
    (own : helper ∉ pagePathNames) (template : String) {more : Variables}
    (fresh : helper ∉ Table.keys more) :
    (s.pageVariables template more).lookup helper = some (.text path) := by
  have missing : helper ∉ Table.keys [("asset_path", Value.function .assetPath),
      ("inline_asset", .function .inlineAsset),
      ("canonical_path", .text (View.publicPath template))] := by
    simp only [pagePathNames, Table.keys, List.map_cons, List.map_nil, List.mem_cons,
      List.not_mem_nil, or_false, not_or] at own ⊢
    refine ⟨own.1, ?_, own.2⟩
    rintro rfl
    exact absurd ends (by decide)
  unfold State.pageVariables
  rw [withValues_append, lookup_withValues_of_not_mem fresh, lookup_withValues_of_not_mem missing,
    lookup_siteVariables nodup ends found]

/-! ## Agreement -/

theorem entered_of_mem_routeEntries {e : Route.Entry} (member : e ∈ s.routeEntries) :
    ∃ path source, Route.entryFor path source = some e := by
  obtain ⟨p, -, entry⟩ := List.mem_filterMap.1 member
  obtain ⟨segments, -, entry⟩ := Option.bind_eq_some_iff.1 entry
  exact ⟨_, _, entry⟩

/-- Pages and scripts agree on the helpers of the route table. In a script each reference to a
helper becomes a literal that stands for the route, and nothing else does but calls. -/
theorem helpers_agree (s : State) :
    ∃ changed t, rebuildRoutes s = .ok changed t ∧
      ∀ (u : State) (helper path : String), u.routes = t.routes →
        t.routes.lookup helper = some path → helper ∉ pagePathNames →
        (∀ template more, helper ∉ Table.keys more →
          (u.pageVariables template more).lookup helper = some (.text path)) ∧
        (∀ resolve source injected, Script.inject u.routes resolve source = .ok injected →
          ∃ tree texts output, Script.parse Script.helperNames source.toList = .ok tree ∧
            injected.output = String.ofList output ∧
            Script.Spliced 0 texts source.toList output ∧ texts.map Prod.fst = tree.walk ∧
            ∀ r text, (.reference r, text) ∈ texts → r.name = helper → text = some (quote path)) ∧
        literalUnits (quote path) = some (path.toList.flatMap codeUnits) ∧
        (Script.IsBareName helper →
          ∀ resolve, Script.inject u.routes resolve helper = .ok ⟨quote path, []⟩) ∧
        (Script.isSimpleName helper = true → helper.toList.all continuesName = true →
          '$' ∉ helper.toList → Script.IsBareName helper) := by
  obtain ⟨log, rebuilt⟩ := rebuildRoutes_eq s
  refine ⟨_, _, rebuilt, fun u helper path routes found own => ?_⟩
  have entered : ∀ e ∈ s.routeEntries, ∃ path source, Route.entryFor path source = some e :=
    fun _ => entered_of_mem_routeEntries
  have ends := Route.endsWith_of_lookup entered found
  have nodup : (Table.keys u.routes).Nodup := routes ▸ Route.nodup_keys_tableOf _
  have found : u.routes.lookup helper = some path := routes ▸ found
  refine ⟨fun template more fresh => lookup_pageVariables nodup ends found own template fresh, ?_,
    literalUnits_quote path, fun bare resolve => Script.inject_bareName bare _ resolve found,
    fun simple whole plain => .of_ends simple whole plain ends⟩
  intro resolve source injected done
  obtain ⟨tree, answers, output, parsed, written, spliced⟩ := Script.inject_ok done
  refine ⟨tree, _, output, parsed, written, spliced, Script.answered_fst .., ?_⟩
  rintro r text member rfl
  rw [Script.text_of_mem_answered member, found]
  rfl

/-- The page of `about.html` binds `about_path` to the literal that a script has for it. -/
theorem helpers_agree_of_about :
    let site := developmentSite [(["views"], .directory), (["views", "about.html"], textFile "x")]
    ∃ changed t, rebuildRoutes site = .ok changed t ∧
      (t.pageVariables "about.html" []).lookup "about_path" = some (.text "/about") ∧
      Script.inject t.routes id "about_path" = .ok ⟨"\"/about\"", []⟩ := by
  intro site
  obtain ⟨changed, t, rebuilt, agree⟩ := helpers_agree site
  have found : t.routes.lookup "about_path" = some "/about" := by
    have listed : passes rebuildRoutes site (fun _ t =>
        t.routes.lookup "about_path" == some "/about") = true := by decide +kernel
    exact eq_of_beq (of_passes listed rebuilt)
  obtain ⟨bound, -, -, injected, bare⟩ := agree t "about_path" "/about" rfl found (by decide)
  have name := bare (by decide +kernel) (by decide +kernel) (by decide)
  exact ⟨changed, t, rebuilt, bound "about.html" [] List.not_mem_nil, injected name id⟩

/-- A page takes `asset_path` for the function and `canonical_path` for its own path, though a script
has the routes of the pages `asset.html` and `canonical.html`. In a script `new$_path` begins with
the word `new` and stands for nothing. -/
theorem helpers_agree_fails :
    let site := developmentSite [(["views"], .directory), (["views", "asset.html"], textFile "x"),
      (["views", "canonical.html"], textFile "x"), (["views", "index.html"], textFile "x"),
      (["views", "new$.html"], textFile "x")]
    ∃ changed t, rebuildRoutes site = .ok changed t ∧
      t.routes = [("root_path", "/"), ("asset_path", "/asset"), ("canonical_path", "/canonical"),
        ("new$_path", "/new$")] ∧
      (t.pageVariables "index.html" []).lookup "asset_path" = some (.function .assetPath) ∧
      Script.inject t.routes id "asset_path" = .ok ⟨quote "/asset", []⟩ ∧
      (t.pageVariables "index.html" []).lookup "canonical_path" = some (.text "/") ∧
      Script.inject t.routes id "canonical_path" = .ok ⟨quote "/canonical", []⟩ ∧
      (t.pageVariables "index.html" []).lookup "new$_path" = some (.text "/new$") ∧
      Script.inject t.routes id "new$_path" = .ok ⟨"new$_path", []⟩ := by
  intro site
  let table : Route.Table := [("root_path", "/"), ("asset_path", "/asset"),
    ("canonical_path", "/canonical"), ("new$_path", "/new$")]
  have routes : (Route.tableOf site.routeEntries).1 = table := by decide +kernel
  have nodup : (Table.keys table).Nodup := by decide
  have unread : Script.inject table id "new$_path" = .ok ⟨"new$_path", []⟩ := by decide +kernel
  obtain ⟨log, rebuilt⟩ := rebuildRoutes_eq site
  rw [routes] at rebuilt
  refine ⟨_, _, rebuilt, rfl, ?_, Script.inject_bareName (by decide +kernel) _ id rfl,
    ?_, Script.inject_bareName (by decide +kernel) _ id rfl,
    lookup_pageVariables nodup (by decide +kernel) rfl (by decide) _ List.not_mem_nil, unread⟩
  · simp [State.pageVariables, withValues, Table.lookup_put_self, Table.lookup_put_of_ne]
  · have index : View.publicPath "index.html" = "/" := by decide +kernel
    simp [State.pageVariables, withValues, Table.lookup_put_self, index]

end Folio.Build
