import GraphQuery.Proofs.Grammar.Assembly
import GraphQuery.Registry.Basic
import Mathlib.Data.String.Basic

/-! What each operation does to the parsers of a registry.

A registry is known by the parser under each slug and by its limit. A valid schema puts its parser under
one slug, a removal leaves one slug without a parser, and the other slugs stay as they are. -/

set_option autoImplicit false

namespace GraphQuery.Registry

variable {registry other : Registry} {slug asked : String} {schema : Schema}

theorem eq_of_parsers (limits : registry.maxLength = other.maxLength)
    (parsers : ∀ slug : String, registry.parsers[slug]? = other.parsers[slug]?) : registry = other := by
  obtain ⟨_, _⟩ := registry
  obtain ⟨_, _⟩ := other
  obtain rfl := limits
  obtain rfl := Std.ExtTreeMap.ext_getElem? parsers
  rfl

/-! A schema under a slug. -/

def put (registry : Registry) (slug : String) (schema : Schema) : Registry :=
  { registry with parsers := registry.parsers.insert slug (.forTypes schema registry.maxLength) }

theorem parsers_put (registry : Registry) (slug : String) (schema : Schema) (asked : String) :
    (registry.put slug schema).parsers[asked]? =
      if asked = slug then some (.forTypes schema registry.maxLength) else registry.parsers[asked]? := by
  rw [put, Std.ExtTreeMap.getElem?_insert]
  simp only [Std.LawfulEqOrd.compare_eq_iff_eq, @eq_comm _ slug asked]

theorem register_of_valid (valid : schema.validate = .ok ()) (registry : Registry) (slug : String) :
    registry.register slug schema =
      .ok (.forTypes schema registry.maxLength, registry.put slug schema) := by
  rw [register, Parser.ofSchema_of_valid valid]
  rfl

theorem register_of_flaw {flaw : Schema.Flaw} (refused : schema.validate = .error flaw)
    (registry : Registry) (slug : String) :
    registry.register slug schema = .error (.inconsistentSchema flaw.message) := by
  rw [register, Parser.ofSchema_of_flaw refused]
  rfl

/-! A slug taken away. -/

theorem parsers_remove (registry : Registry) (slug asked : String) :
    (registry.remove slug).2.parsers[asked]? =
      if asked = slug then none else registry.parsers[asked]? := by
  rw [remove, Std.ExtTreeMap.getElem?_erase]
  simp only [Std.LawfulEqOrd.compare_eq_iff_eq, @eq_comm _ slug asked]

theorem known_of_remove (registry : Registry) (slug : String) :
    (registry.remove slug).1 = registry.parsers[slug]?.isSome :=
  Std.ExtTreeMap.contains_eq_isSome_getElem?

theorem remove_of_unknown (unknown : registry.parsers[slug]? = none) :
    (registry.remove slug).2 = registry := by
  refine eq_of_parsers rfl fun asked => ?_
  rw [parsers_remove]
  split
  · next same => rw [same, unknown]
  · rfl

/-! The list of slugs. -/

theorem mem_slugs : slug ∈ registry.slugs ↔ registry.parsers[slug]?.isSome = true := by
  rw [slugs, Std.ExtTreeMap.mem_keys, Std.ExtTreeMap.mem_iff_isSome_getElem?]

theorem slugs_increasing (registry : Registry) : registry.slugs.Pairwise (· < ·) :=
  Std.ExtTreeMap.ordered_keys.imp compare_lt_iff_lt.mp

end GraphQuery.Registry
