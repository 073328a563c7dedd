import PluginCatalog.Proofs.Catalog.Query
import PluginCatalog.Proofs.Constraint.Membership
import PluginCatalog.Proofs.Constraint.RoundTrip
import PluginCatalog.Proofs.Record.FlatForm

/-!
# Services and constraints

A service can be asked for in two ways, by its tag and by a constraint on the property that lists the
services. The first looks at the metadata and at the field of the records, the second at their
properties, where a custom property could hide the field. The plugins that are found have no such
property (`Record.lookup_serviceTypes`), so both ways lead to the same plugins
(`Catalog.query_service`).
-/

namespace PluginCatalog

open Metadata (Declaration Field)

namespace Constraint

/-- The expression that asks for a service. -/
def offering (tag : String) : Expr :=
  .membership (.literal (.string tag)) (.property Field.serviceTypes.key)

/-- The text that asks for a service. -/
def offeringText (tag : String) : String := "'" ++ tag ++ "' IN [X-Plugin-ServiceTypes]"

/-- The text of a string in a property, if the string contains no quote. -/
theorem text_inProperty {s : String} (h : '\'' ∉ s.toList) (key : String) :
    (Expr.membership (.literal (.string s)) (.property key)).text
      = "'" ++ s ++ ("' IN [" ++ key ++ "]") := by
  have hrender : (Expr.membership (.literal (.string s)) (.property key)).render
      = (Literal.string s).render ++ " IN ".toList ++ Expr.renderKey key := rfl
  have hliteral : (Literal.string s).render = '\'' :: (s.toList ++ ['\'']) := by
    simp [Literal.render, h]
  refine String.toList_injective ?_
  rw [Expr.text, hrender, hliteral]
  simp [Expr.renderKey]

/-- The text that asks for a service is that of the expression, if the tag contains no quote. -/
theorem text_offering {tag : String} (h : '\'' ∉ tag.toList) :
    (offering tag).text = offeringText tag := by
  have hkey : "' IN [" ++ Field.serviceTypes.key ++ "]" = "' IN [X-Plugin-ServiceTypes]" := by decide
  rw [offering, text_inProperty h, hkey, offeringText]

/-- The text is accepted and asks for the service. -/
theorem parse_offeringText {tag : String} (h : '\'' ∉ tag.toList) :
    parse (offeringText tag) = .ok ⟨offeringText tag, offering tag⟩ := by
  have hwell : (offering tag).WellFormed := .inProperty (.inl h) (by decide)
  have hparse := parse_text_of_wellFormed hwell nofun
  rwa [text_offering h] at hparse

/-- Texts compare as equal exactly if they are the same. -/
theorem valuesEqual_text (s t : String) : valuesEqual (.text s) (.text t) = (s == t) := by
  show decide (Text.order s t = .eq) = decide (s = t)
  refine decide_eq_decide.2 ?_
  unfold Text.order
  by_cases hlt : s < t
  · have hne : s ≠ t := fun h => String.lt_irrefl t (h ▸ hlt)
    simp [hlt, hne]
  · simp [hlt]

/-- Where services are listed, the expression holds exactly if the service is among them. -/
theorem isHolds_offering {lookup : String → Value} {services : List String}
    (h : lookup Field.serviceTypes.key = .list services) (tag : String) :
    ((offering tag).evaluate lookup).isHolds = services.contains tag := by
  rw [offering, Expr.isHolds_occurs lookup _ h, Literal.value]
  simp only [valuesEqual_text, List.any_beq']

/-- Where none are listed, the expression does not hold. -/
theorem isHolds_offering_of_absent {lookup : String → Value}
    (h : lookup Field.serviceTypes.key = .absent) (tag : String) :
    ((offering tag).evaluate lookup).isHolds = false := by
  rw [offering, Expr.evaluate, Expr.operand, Expr.operand, h]
  rfl

end Constraint

namespace Record

variable {locale libraryPath : String} {p : Properties} {r : Record}
  (h : normalize locale (.flat p) libraryPath "" = .ok (some r))

include h

/-- No property of a record from flat metadata hides the field of the services: they are listed, or there
are none. -/
theorem lookup_serviceTypes (active : String) :
    r.lookup active Field.serviceTypes.key = .list r.serviceTypes ∨
      r.lookup active Field.serviceTypes.key = .absent ∧ r.serviceTypes = [] := by
  -- Flat metadata has no custom property under the key of a field.
  have hfield : r.lookup active Field.serviceTypes.key = r.fields.lookup Field.serviceTypes.key := by
    rw [lookup_key rfl, lookup_properties_key h (Declaration.get?_custom_key p)]
  rw [hfield]
  refine (coherent_of_normalize h).serviceTypes.imp_right fun ⟨hundeclared, hnone⟩ => ⟨?_, hnone⟩
  rw [Bag.lookup, Properties.lookup, Dict.contains_eq_false_iff.1 hundeclared]
  rfl

/-- A record from flat metadata satisfies the constraint that asks for a service exactly if it names the
service. -/
theorem keeps_offeringText {tag : String} (htag : '\'' ∉ tag.toList) (active : String) :
    Constraint.keeps (Constraint.offeringText tag) active r = r.hasServiceType tag := by
  have hexpr := (Constraint.parse_eq_ok_iff.1 (Constraint.parse_offeringText htag)).1
  rw [Constraint.keeps_of_parseExpr hexpr, hasServiceType]
  obtain hlisted | ⟨habsent, hnone⟩ := lookup_serviceTypes h active
  · exact Constraint.isHolds_offering hlisted tag
  · rw [Constraint.isHolds_offering_of_absent habsent, hnone]
    rfl

end Record

/-- Each of several records comes from one of the sources. -/
theorem Record.exists_of_mem_normalizeAll {locale : String} {sources : List (Metadata.Source × String)}
    {r : Record} (h : r ∈ normalizeAll locale sources) :
    ∃ e ∈ sources, normalize locale e.1 e.2 "" = .ok (some r) := by
  obtain ⟨e, he, hr⟩ := List.mem_filterMap.1 h
  exact ⟨e, he, eq_ok_some_of_match hr⟩

namespace Catalog

/-- A plugin that is found has a record of flat metadata. -/
theorem exists_of_mem_discover {c : Catalog} {t : FileTree} {locale dir : String} {r : Record}
    (h : r ∈ c.discover t locale dir "") :
    ∃ f : Finding, Record.normalize locale (.flat f.metadata) f.libraryPath "" = .ok (some r) := by
  obtain ⟨e, he, hr⟩ := Record.exists_of_mem_normalizeAll h
  obtain ⟨f, -, rfl⟩ := List.mem_map.1 he
  exact ⟨f, hr⟩

/-- To ask for a service by its tag, or by the constraint that it is among the services, is the same. -/
theorem query_service (c : Catalog) (t : FileTree) (locale dir : String) {tag : String} (hne : tag ≠ "")
    (hquote : '\'' ∉ tag.toList) :
    c.query t locale dir tag ""
      = c.query t locale dir "" ("'" ++ tag ++ "' IN [X-Plugin-ServiceTypes]") := by
  have hparse : ∃ parsed, Constraint.parse (Constraint.offeringText tag) = .ok parsed :=
    ⟨_, Constraint.parse_offeringText hquote⟩
  have hfree : c.query t locale dir tag "" = c.discover t locale dir tag := rfl
  show _ = c.query t locale dir "" (Constraint.offeringText tag)
  rw [hfree, discover_eq_filter c t locale dir hne, query_eq_apply, Constraint.apply_of_parse hparse]
  refine List.filter_congr fun r hr => ?_
  obtain ⟨f, hf⟩ := exists_of_mem_discover hr
  exact (Record.keeps_offeringText hf hquote locale).symm

/-- A library that offers two services is found by the constraint on one of them, as by its tag. -/
theorem query_service_listed :
    let c : Catalog :=
      ⟨.default, fun _ _ => some (.ofList [("X-Plugin-ServiceTypes", .text "A; B")])⟩
    let t : FileTree := ⟨[(["p"], .directory), (["p", "a.so"], .file [])], [], by decide⟩
    (c.query t "" "/p" "B" "").map (·.serviceTypes) = [["A", "B"]] ∧
      c.query t "" "/p" "B" "" = c.query t "" "/p" "" "'B' IN [X-Plugin-ServiceTypes]" := by
  intro c t
  exact ⟨by decide +kernel, query_service c t "" "/p" (by decide) (by decide)⟩

end Catalog

end PluginCatalog
