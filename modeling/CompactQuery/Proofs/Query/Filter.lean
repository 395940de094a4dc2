import CompactQuery.Proofs.Query.Run

/-!
# Filter — what a run leaves in the filter, and how its offers are answered

A run mixes all kinds of steps, and those that offer conditions may be refused. The filter at the
end holds the chain of the offers, whatever the other steps are and however many offers were
refused. An offer is answered by its place: taken up if the chain of the offers before it goes on
with it, refused with the breach it is otherwise, and then the query stays exactly as it was.

* **`conditions_performAll`** — the filter after a run.
* **`filter_law`** — the filter, the answer at every place of a run, and what holds of every query
  that a run builds.
-/

namespace CompactQuery.Query

/-- The filter after a run is the chain of what the run offered. -/
theorem conditions_performAll (table : String) (run : List Step) :
    ((ofTable table).performAll run).conditions = linked (run.filterMap Step.condition?) := by
  rw [performAll_ofTable]; rfl

/-- **The law of the filter, for every run on a bare table.** What is stored is the first offer
without a connector and every later one with a connector, in the order of the offers. Each offer of
the run either continues that chain and succeeds, or leaves the query as it was and fails: with the
connector it came with if nothing was taken up before, with the number of conditions taken up
before otherwise. And the query that results is lawful. -/
theorem filter_law (table : String) (run : List Step) :
    ((ofTable table).performAll run).conditions = linked (run.filterMap Step.condition?) ∧
    (∀ before left op right connector after,
      run = before ++ .restrict left op right connector :: after →
      let query := (ofTable table).performAll before
      let offer : Step := .restrict left op right connector
      let offered := before.filterMap Step.condition?
      let condition : Condition := { left, op, right, connector := given connector }
      (linked (offered ++ [condition]) = linked offered ++ [condition] ∧
          query.extend? offer =
            .ok { query with conditions := linked offered ++ [condition] }) ∨
        (linked (offered ++ [condition]) = linked offered ∧
          query.perform offer = query ∧
          ((linked offered = [] ∧
              ∃ k, k ≠ "" ∧ connector = some k ∧
                query.extend? offer = .error (.unexpectedConnector k)) ∨
            (linked offered ≠ [] ∧ given connector = none ∧
              query.extend? offer = .error (.missingConnector (linked offered).length))))) ∧
    ((ofTable table).performAll run).Lawful := by
  refine ⟨conditions_performAll table run, ?_, Reachable.lawful ⟨table, run, rfl⟩⟩
  intro before left op right connector after _ query offer offered condition
  have hchain : query.conditions = linked offered := conditions_performAll table before
  cases hfault : connectorFault? (linked offered) (given connector) with
  | none =>
      left
      refine ⟨?_, ?_⟩
      · rw [linked_snoc, extendChain_of_fits hfault]
      · rw [← hchain]
        exact extend?_restrict_of_fits (by rw [hchain]; exact hfault)
  | some fault =>
      right
      have hrefused : query.extend? offer = .error fault :=
        extend?_restrict_of_fault (by rw [hchain]; exact hfault)
      refine ⟨?_, perform_of_refused hrefused, ?_⟩
      · rw [linked_snoc, extendChain_of_fault hfault]
      · -- the breach names the connector or the place, according to what the chain holds
        rcases connectorFault?_eq_some_iff.mp hfault with ⟨hnil, k, hk, rfl⟩ | ⟨hne, hnone, rfl⟩
        · obtain ⟨hconnector, hk⟩ := given_eq_some_iff.mp hk
          exact Or.inl ⟨hnil, k, hk, hconnector, hrefused⟩
        · exact Or.inr ⟨hne, hnone, hrefused⟩

end CompactQuery.Query
