import GraphQuery.Proofs.Parsing
import GraphQuery.Proofs.Query.Completeness
import GraphQuery.Proofs.Query.PlainValues

/-! Over an unambiguous schema every sentence has the plan of the tree that it was meant to say. -/

set_option autoImplicit false

namespace GraphQuery.Parser

open Query Query.Language

/-- Whichever way a tree is put into words, its plan is the answer. -/
theorem parse_of_treeText {schema : Schema} {maxLength : Nat} {query : String} {found : Tree}
    (valid : schema.validate = .ok ()) (unambiguous : schema.Unambiguous)
    (ordered : OrderedTree found)
    (spelled : TreeText (ClearBare (Grammar.ofTypes schema)) (Grammar.ofTypes schema) found
      (Normalized.ofQuery query.toList).text [])
    (fits : query.toList.length ≤ maxLength) :
    ∃ parser plan labels, ofSchema schema maxLength = .ok parser ∧
      Plan.ofTree (Grammar.ofTypes schema) found .fresh = .ok (plan, labels) ∧
        parser.parse query = .ok plan := by
  obtain ⟨plan, labels, reduced⟩ := exists_ofTree_of_treeText .fresh spelled
  have spoken : (Normalized.ofQuery query.toList).text ≠ [] := by
    obtain ⟨_, sources, _⟩ := spelled
    exact group_ne_nil unambiguous.clear sources
  have read := read_tree unambiguous.clear ordered spelled
  exact ⟨⟨Grammar.ofTypes schema, maxLength⟩, plan, labels, ofSchema_eq_ok.mpr ⟨valid, rfl⟩, reduced,
    parse_eq_ok.mpr ⟨fits, .inr ⟨spoken, found, labels, read, reduced⟩⟩⟩

def villageSchema : Schema where
  nodeTypes :=
    [{ id := 1, name := "Person", pluralName := some "People", properties := [⟨"name"⟩, ⟨"age"⟩] },
     { id := 2, name := "City", pluralName := some "Cities", properties := [⟨"name"⟩] }]
  relationshipTypes := [{ id := 1, name := "likes", source := 1, target := 2 }]

def villageTree : Tree where
  sources := [⟨1, some ["name"], [⟨"age", .iexact, .bare "30"⟩]⟩]
  hops := [⟨1, [⟨2, none, []⟩]⟩]

theorem unambiguous_village : villageSchema.Unambiguous where
  lettered := by decide +kernel
  distinct :=
    { free := by decide +kernel
      nodes := by decide +kernel
      relationships := by decide +kernel
      keys := by decide +kernel
      names := by decide +kernel }

theorem plainValue_thirty : PlainValue "30".toList where
  wordy := by unfold Wordy; decide +kernel
  unquoted := by decide +kernel

theorem word_append {word : String} {found rest : List Char}
    (same : Text.equalFold found word.toList = true) (ends : Text.wordEnds found rest = true) :
    Word word (found ++ rest) rest :=
  ⟨found, rfl, same, ends⟩

theorem gap_append (rest : List Char) : Gap (" ".toList ++ rest) rest :=
  ⟨" ".toList, by simp, by simp [Text.isBlank], rfl⟩

theorem groupText_village {rest : List Char} (space : rest.head? = some ' ') :
    GroupText (ClearBare (.ofTypes villageSchema)) (.ofTypes villageSchema) villageTree.sources
      ("name".toList ++ (" ".toList ++ ("of".toList ++ (" ".toList ++ ("Person".toList ++ (" ".toList ++
        ("with".toList ++ (" ".toList ++ ("age".toList ++ (" ".toList ++ ("30".toList ++ rest)))))))))))
      rest := by
  -- Piece by piece: the property asked for, the type, and the condition.
  refine ⟨_, List.mem_cons_self, .mk (.mk ⟨_, ⟨_, .mk ⟨_, List.mem_cons_self, rfl, "name".toList,
    by decide +kernel, rfl, rfl⟩ .nil, _, gap_append _, _,
    ⟨"of", by decide, word_append (by decide +kernel) rfl⟩, _, gap_append _, .inl rfl⟩, _,
    ⟨"Person".toList, by decide +kernel, rfl, rfl⟩, .some ⟨_, gap_append _, .mk (.mk ⟨_, .inr ⟨_,
      word_append (by decide +kernel) rfl, _, .inl rfl, gap_append _⟩, _, .property ⟨_, ⟨_,
        List.mem_cons_of_mem _ List.mem_cons_self, rfl, "age".toList, by decide +kernel, rfl, rfl⟩,
        gap_append _⟩, .bare (by decide) ?_⟩) .nil⟩⟩) .nil⟩
  exact clearBare_of_plain plainValue_thirty (.inr space)

theorem hopText_village : HopText (ClearBare (.ofTypes villageSchema)) (.ofTypes villageSchema)
    ⟨1, [⟨2, none, []⟩]⟩
    (" ".toList ++ ("that".toList ++ (" ".toList ++ ("likes".toList ++ (" ".toList ++ ("a".toList ++
      (" ".toList ++ ("City".toList ++ [])))))))) [] :=
  .mk ⟨_, ⟨_, List.mem_cons_self, rfl, _, gap_append _, _, .inl rfl, _,
      ⟨"that", by decide, word_append (by decide +kernel) rfl⟩, _, gap_append _, _,
      ⟨"likes".toList, by decide +kernel, rfl, rfl⟩,
      .inr ⟨_, gap_append _, "a", by decide, word_append (by decide +kernel) rfl⟩⟩, _, gap_append _,
    _, List.mem_cons_of_mem _ List.mem_cons_self,
    .mk (.mk ⟨_, rfl, _, ⟨"City".toList, by decide +kernel, rfl, rfl⟩, .none⟩) .nil⟩

theorem treeText_village : TreeText (ClearBare (.ofTypes villageSchema)) (.ofTypes villageSchema)
    villageTree (Normalized.ofQuery "name of Person with age 30 that likes a City".toList).text [] := by
  have text : (Normalized.ofQuery "name of Person with age 30 that likes a City".toList).text =
      "name".toList ++ (" ".toList ++ ("of".toList ++ (" ".toList ++ ("Person".toList ++ (" ".toList ++
        ("with".toList ++ (" ".toList ++ ("age".toList ++ (" ".toList ++ ("30".toList ++
          (" ".toList ++ ("that".toList ++ (" ".toList ++ ("likes".toList ++ (" ".toList ++
            ("a".toList ++ (" ".toList ++ ("City".toList ++ [])))))))))))))))))) := by
    decide +kernel
  rw [text]
  exact .mk ⟨_, groupText_village rfl, .cons hopText_village .nil⟩

theorem parse_of_treeText_village :
    villageSchema.validate = .ok () ∧ villageSchema.Unambiguous ∧ OrderedTree villageTree ∧
      ∃ parser plan labels, ofSchema villageSchema defaultMaxLength = .ok parser ∧
        Plan.ofTree (.ofTypes villageSchema) villageTree .fresh = .ok (plan, labels) ∧
          parser.parse "name of Person with age 30 that likes a City" = .ok plan := by
  have valid : villageSchema.validate = .ok () := eq_ok_of_toOption (by decide +kernel)
  have ordered : OrderedTree villageTree := by
    refine ⟨.singleton _, fun hop member => ?_⟩
    obtain rfl := List.mem_singleton.mp member
    exact .singleton _
  exact ⟨valid, unambiguous_village, ordered,
    parse_of_treeText valid unambiguous_village ordered treeText_village (by decide +kernel)⟩

end GraphQuery.Parser
