import PluginCatalog.Proofs.Constraint.Combination
import PluginCatalog.Proofs.Record.Fields

/-!
# Queries are filters

A service is checked on the metadata as it was found, before it is brought to records, and again on
the records. The first check drops nothing that the second keeps
(`Record.filter_normalizeAll_offers`), so the plugins that offer a service are those of all plugins
whose records name it. A query applies its constraint to them, and is therefore a filter of the
query that asks for nothing (`Catalog.query_eq`).
-/

namespace PluginCatalog

namespace Finding

/-- Every plugin is offered when nothing is asked for. -/
theorem offers_empty (f : Finding) : offers "" f = true := rfl

/-- The plugins that offer a service are found among all plugins, in order. -/
theorem inDirectories_eq_filter (s : Settings) (load : Loader) (t : FileTree) (dirs : List String)
    (tag : String) :
    inDirectories s load t dirs tag = (inDirectories s load t dirs "").filter (offers tag) := by
  have hall (found : List Finding) : found.filter (offers "") = found :=
    List.filter_eq_self.2 fun f _ => offers_empty f
  induction dirs with
  | nil => rfl
  | cons dir dirs ih =>
    simp only [inDirectories, List.flatMap_cons, hall, List.filter_append] at ih ⊢
    rw [ih]
    congr 1
    split <;> rfl

end Finding

/-- A finding with a record that offers a service is kept when the service is asked for. -/
theorem Record.offers_of_normalize {locale libraryPath : String} {f : Finding} {r : Record}
    {tag : String} (h : normalize locale (.flat f.metadata) libraryPath "" = .ok (some r))
    (htag : r.hasServiceType tag = true) : f.offers tag = true := by
  rw [hasServiceType, serviceTypes_of_normalize h] at htag
  rw [Finding.offers, htag, Bool.or_true]

/-- An answer that is taken for a record, where an error is taken for none, is that record. -/
theorem Record.eq_ok_some_of_match {answer : Except MetadataError (Option Record)} {r : Record}
    (h : (match answer with
      | .ok r => r
      | .error _ => none) = some r) : answer = .ok (some r) := by
  cases answer with
  | ok _ => exact congrArg Except.ok h
  | error _ => cases h

/-- Of the records that offer a service, none is lost by looking for the service in the metadata
first. -/
theorem Record.filter_normalizeAll_offers (locale tag : String) (found : List Finding) :
    (normalizeAll locale ((found.filter (Finding.offers tag)).map fun f =>
        (.flat f.metadata, f.libraryPath))).filter (·.hasServiceType tag)
      = (normalizeAll locale (found.map fun f => (.flat f.metadata, f.libraryPath))).filter
        (·.hasServiceType tag) := by
  unfold normalizeAll
  induction found with
  | nil => rfl
  | cons f found ih =>
    rw [List.map_cons, List.filterMap_cons, List.filter_cons]
    cases hoffers : f.offers tag with
    | true =>
      rw [if_pos rfl, List.map_cons, List.filterMap_cons]
      dsimp only
      split
      · exact ih
      · rw [List.filter_cons, List.filter_cons, ih]
    -- A finding that is left out has no record, or one that does not name the service.
    | false =>
      rw [if_neg Bool.false_ne_true, ih]
      dsimp only
      split
      · rfl
      · rename_i r hr
        have hdrop : r.hasServiceType tag = false := by
          rw [← Bool.not_eq_true]
          intro htag
          rw [offers_of_normalize (eq_ok_some_of_match hr) htag] at hoffers
          cases hoffers
        rw [List.filter_cons, hdrop, if_neg Bool.false_ne_true]

namespace Catalog

variable (c : Catalog) (t : FileTree) (locale dir : String)

/-- The plugins that offer a service are those of all plugins whose records name it, in order. -/
theorem discover_eq_filter {tag : String} (h : tag ≠ "") :
    c.discover t locale dir tag
      = (c.discover t locale dir "").filter (·.hasServiceType tag) := by
  have hempty : tag.isEmpty = false := by simpa using h
  have hnone : "".isEmpty = true := rfl
  unfold discover
  dsimp only
  -- Both sides check the records; only the left one has looked at the metadata before.
  rw [hempty, if_neg Bool.false_ne_true, if_pos hnone, Finding.inDirectories_eq_filter,
    Record.filter_normalizeAll_offers]

/-- A query applies its constraint to the plugins that offer its service. -/
theorem query_eq_apply (tag text : String) :
    c.query t locale dir tag text
      = Constraint.apply text locale (c.discover t locale dir tag) := rfl

/-- The plugins that offer a service, where the empty tag asks for nothing. -/
theorem discover_eq_filter_or (tag : String) :
    c.discover t locale dir tag
      = (c.discover t locale dir "").filter fun r => tag.isEmpty || r.hasServiceType tag := by
  by_cases h : tag = ""
  · subst h
    exact (List.filter_eq_self.2 fun _ _ => rfl).symm
  · have hempty : tag.isEmpty = false := by simpa using h
    rw [discover_eq_filter c t locale dir h]
    exact List.filter_congr fun r _ => by rw [hempty, Bool.false_or]

/-- A query applies its constraint to the plugins that offer its service, and those are the plugins
of the directory whose records name the service. So a query leaves, of what the query that asks for
nothing gives, the records that name the service and satisfy the constraint, if it asks for them;
with a constraint that is not accepted it gives nothing. -/
theorem query_eq (tag text : String) :
    c.query t locale dir tag text = Constraint.apply text locale (c.discover t locale dir tag) ∧
      (tag ≠ "" → c.discover t locale dir tag
        = (c.discover t locale dir "").filter (·.hasServiceType tag)) ∧
      c.query t locale dir tag text
        = (c.query t locale dir "" "").filter (fun r =>
            (tag.isEmpty || r.hasServiceType tag)
              && (Constraint.isBlank text || Constraint.keeps text locale r)) ∧
      (Constraint.isBlank text = false → (∀ parsed, Constraint.parse text ≠ .ok parsed) →
        c.query t locale dir tag text = []) := by
  have hfree : c.query t locale dir "" "" = c.discover t locale dir "" := rfl
  refine ⟨rfl, discover_eq_filter c t locale dir, ?_, ?_⟩
  · rw [query_eq_apply, discover_eq_filter_or, hfree]
    cases hblank : Constraint.isBlank text with
    | true =>
      rw [Constraint.apply, if_pos hblank]
      exact List.filter_congr fun r _ => by rw [Bool.true_or, Bool.and_true]
    | false =>
      rw [Constraint.apply_of_isBlank hblank, List.filter_filter]
      exact List.filter_congr fun r _ => by rw [Bool.false_or, Bool.and_comm]
  · intro hblank hparse
    rw [query_eq_apply, Constraint.apply, if_neg (by rw [hblank]; decide)]
    split
    · rename_i parsed h
      exact absurd h (hparse parsed)
    · rfl

/-- One library that offers two services: it is found by one of them, and not by a constraint
without a term. -/
theorem query_eq_incomplete :
    let c : Catalog :=
      ⟨.default, fun _ _ => some (.ofList [("X-Plugin-ServiceTypes", .text "A; B")])⟩
    let t : FileTree := ⟨[(["p"], .directory), (["p", "a.so"], .file [])], [], by decide⟩
    (c.discover t "" "/p" "B").map (·.serviceTypes) = [["A", "B"]] ∧
      c.discover t "" "/p" "B" = (c.discover t "" "/p" "").filter (·.hasServiceType "B") ∧
      c.query t "" "/p" "B" "NOT" = [] := by
  intro c t
  have hparse (parsed : Constraint) : Constraint.parse "NOT" ≠ .ok parsed := by
    have hscan : Constraint.Token.scan "NOT".toList
        = .ok [⟨.word "NOT", ['N', 'O', 'T'], 0⟩] := by decide +kernel
    intro h
    rw [Constraint.parse, Constraint.parseExpr, hscan] at h
    cases h
  have h := query_eq c t "" "/p" "B" "NOT"
  exact ⟨by decide +kernel, h.2.1 (by decide), h.2.2.2 (by decide) hparse⟩

end Catalog

end PluginCatalog
