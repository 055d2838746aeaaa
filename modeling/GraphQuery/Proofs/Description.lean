import GraphQuery.Proofs.Outcomes
import GraphQuery.Proofs.Grammar.Description
import GraphQuery.Proofs.Query.Renaming

/-! Grammars with the same text answer alike.

The text tells the grammar but for the names of types, and these show in failures only. -/

set_option autoImplicit false

namespace GraphQuery

open Grammar Query

theorem keeps_anonymous (grammar : Grammar) :
    Plan.Keeps grammar grammar.anonymous ∧ Plan.Keeps grammar.anonymous grammar := by
  have found : ∀ kind id,
      grammar.anonymous.entry? kind id = (grammar.entry? kind id).map (·.anonymous) := by
    intro kind id
    have entries : grammar.anonymous.entries kind = (grammar.entries kind).map (·.anonymous) := by
      cases kind <;> rfl
    rw [Grammar.entry?, entries, List.find?_map]
    rfl
  constructor
  · intro kind id entry named
    exact ⟨"", by rw [found, named]; rfl⟩
  · intro kind id _ nameless
    obtain ⟨entry, named, rfl⟩ := Option.map_eq_some_iff.mp ((found kind id).symm.trans nameless)
    exact ⟨entry.name, named⟩

theorem read_tree_anonymous (grammar : Grammar) (text : List Char) :
    (tree grammar.anonymous).read? text = (tree grammar).read? text := by
  have renamed := (renamed_tree (fun _ id => id) (fun _ => "") grammar).read text
  simp only [Tree.renumber_same] at renamed
  exact renamed.trans Option.map_id'

namespace Parser

theorem parse_anonymous {grammar : Grammar} {maxLength : Nat} {query : String} {plan : Plan} :
    parse ⟨grammar.anonymous, maxLength⟩ query = .ok plan ↔ parse ⟨grammar, maxLength⟩ query = .ok plan := by
  obtain ⟨keeps, kept⟩ := keeps_anonymous grammar
  simp only [parse_eq_ok, read_tree_anonymous]
  refine and_congr_right fun _ => or_congr_right (and_congr_right fun _ =>
    exists_congr fun found => exists_congr fun labels => and_congr_right fun _ => ?_)
  exact ⟨Plan.ofTree_of_keeps kept, Plan.ofTree_of_keeps keeps⟩

/-- Where two schemas have grammars with the same text, the rules for their types are the same, in the same
order, but for the names of the types. So every query has the same plan against both, or fails against
both. -/
theorem anonymous_eq_and_parse_of_describe {first second : Schema} {grammar other : Grammar}
    (assembled : Grammar.ofSchema first = .ok grammar)
    (assembled' : Grammar.ofSchema second = .ok other) (same : grammar.describe = other.describe) :
    grammar.anonymous = other.anonymous ∧
      ∀ maxLength query,
        (parse ⟨grammar, maxLength⟩ query).toOption = (parse ⟨other, maxLength⟩ query).toOption := by
  obtain ⟨_, rfl⟩ := Grammar.ofSchema_eq_ok.mp assembled
  obtain ⟨_, rfl⟩ := Grammar.ofSchema_eq_ok.mp assembled'
  have rules := (describe_eq_iff (kinded_ofTypes first) (kinded_ofTypes second)).mp same
  refine ⟨rules, fun maxLength query => Option.ext fun plan => ?_⟩
  rw [toOption_eq_some, toOption_eq_some, ← parse_anonymous, rules, parse_anonymous]

def citySchema (name plural : String) : Schema where
  nodeTypes := [{ id := 1, name := name, pluralName := some plural, properties := [⟨"mayor"⟩] }]
  relationshipTypes := [{ id := 7, name := "near", source := 1, target := 1 }]

theorem anonymous_eq_and_parse_of_describe_city :
    ∃ grammar other, Grammar.ofSchema (citySchema "City" "Towns") = .ok grammar ∧
      Grammar.ofSchema (citySchema "Towns" "City") = .ok other ∧ grammar ≠ other ∧
      grammar.describe = other.describe ∧ grammar.anonymous = other.anonymous ∧
      ∀ maxLength query,
        (parse ⟨grammar, maxLength⟩ query).toOption = (parse ⟨other, maxLength⟩ query).toOption := by
  have first : Grammar.ofSchema (citySchema "City" "Towns") = .ok (.ofTypes (citySchema "City" "Towns")) :=
    eq_ok_of_toOption (by decide +kernel)
  have second : Grammar.ofSchema (citySchema "Towns" "City") = .ok (.ofTypes (citySchema "Towns" "City")) :=
    eq_ok_of_toOption (by decide +kernel)
  have same : (Grammar.ofTypes (citySchema "City" "Towns")).describe =
      (Grammar.ofTypes (citySchema "Towns" "City")).describe :=
    (describe_eq_iff (kinded_ofTypes _) (kinded_ofTypes _)).mpr (by decide +kernel)
  exact ⟨_, _, first, second, by decide +kernel, same,
    anonymous_eq_and_parse_of_describe first second same⟩

end Parser
end GraphQuery
