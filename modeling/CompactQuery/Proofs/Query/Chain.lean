import CompactQuery.Query.Basic

/-!
# Chain — which conditions a filter takes up

A filter is offered conditions one at a time and takes up those that continue its chain: the first
without a connector, any later one with a connector. Whether a condition is taken up depends on the
chain built so far and on nothing else of the query.

* **`connectorFault?`** — what is wrong with a connector behind a given chain, if anything is.
* **`extendChain`** — a chain after one more condition was offered.
* **`linked`** — the chain that a list of offered conditions amounts to, read off the list itself:
  its first condition without a connector and every later one with a connector.
* **`linked_snoc`** — the two agree: offering one more condition extends the chain of the offers so
  far. This is the induction step of every statement about runs.
* **`restrict?_eq`**, **`perform_restrict`** — the step that offers a condition, in these terms.
-/

namespace CompactQuery

/-! ## One more condition -/

/-- The breach that a connector is behind a chain, if it is one. -/
def connectorFault? (chain : List Condition) (connector : Option String) : Option ChainFault :=
  match chain, connector with
  | [], some connector => some (.unexpectedConnector connector)
  | _ :: _, none => some (.missingConnector chain.length)
  | _, _ => none

/-- A connector is a breach in two cases: it stands in the first place of the chain, or it is missing
in a later one. -/
theorem connectorFault?_eq_some_iff {chain : List Condition} {connector : Option String}
    {fault : ChainFault} :
    connectorFault? chain connector = some fault ↔
      (chain = [] ∧ ∃ k, connector = some k ∧ fault = .unexpectedConnector k) ∨
        (chain ≠ [] ∧ connector = none ∧ fault = .missingConnector chain.length) := by
  cases chain <;> cases connector <;> simp [connectorFault?, eq_comm]

/-- Of the chain only the length matters. -/
theorem connectorFault?_map (f : Condition → Condition) (chain : List Condition)
    (connector : Option String) :
    connectorFault? (chain.map f) connector = connectorFault? chain connector := by
  cases chain <;> cases connector <;> simp [connectorFault?]

/-- The chain after a condition is offered to it. -/
def extendChain (chain : List Condition) (condition : Condition) : List Condition :=
  match connectorFault? chain condition.connector with
  | none => chain ++ [condition]
  | some _ => chain

theorem extendChain_of_fits {chain : List Condition} {condition : Condition}
    (h : connectorFault? chain condition.connector = none) :
    extendChain chain condition = chain ++ [condition] := by
  simp [extendChain, h]

theorem extendChain_of_fault {chain : List Condition} {condition : Condition} {fault : ChainFault}
    (h : connectorFault? chain condition.connector = some fault) :
    extendChain chain condition = chain := by
  simp [extendChain, h]

theorem extendChain_nil (condition : Condition) :
    extendChain [] condition = if condition.connector.isSome then [] else [condition] := by
  cases h : condition.connector <;> simp [extendChain, connectorFault?, h]

/-- Every later place is for a condition with a connector. -/
theorem extendChain_of_ne_nil {chain : List Condition} (hne : chain ≠ []) (condition : Condition) :
    extendChain chain condition
      = if condition.connector.isSome then chain ++ [condition] else chain := by
  obtain ⟨first, rest, rfl⟩ := List.exists_cons_of_ne_nil hne
  cases h : condition.connector <;> simp [extendChain, connectorFault?, h]

/-! ## The chain of a list of offers -/

/-- The chain that offered conditions amount to: the first one without a connector and, of those
behind it, each one with a connector. -/
def linked (offered : List Condition) : List Condition :=
  match offered.dropWhile (fun c => c.connector.isSome) with
  | [] => []
  | first :: later => first :: later.filter (fun c => c.connector.isSome)

/-- **Offering one more condition extends the chain of the offers so far.** -/
theorem linked_snoc (offered : List Condition) (condition : Condition) :
    linked (offered ++ [condition]) = extendChain (linked offered) condition := by
  unfold linked
  rw [List.dropWhile_append]
  cases hdrop : offered.dropWhile (fun c => c.connector.isSome) with
  | nil =>
      -- nothing was taken up so far, so the new condition decides alone
      rw [extendChain_nil]
      cases h : condition.connector <;> simp [h]
  | cons first later =>
      -- the chain is open, and the new condition passes the filter or not
      rw [extendChain_of_ne_nil (List.cons_ne_nil _ _)]
      cases h : condition.connector <;> simp [h]

example :
    linked [⟨"a", "=", "1", some "and"⟩, ⟨"b", "=", "2", none⟩, ⟨"c", "=", "3", none⟩,
      ⟨"d", "=", "4", some "or"⟩] = [⟨"b", "=", "2", none⟩, ⟨"d", "=", "4", some "or"⟩] := rfl

theorem linked_append (offered more : List Condition) :
    linked (offered ++ more) = more.foldl extendChain (linked offered) := by
  induction more generalizing offered with
  | nil => rw [List.append_nil]; rfl
  | cons condition more ih =>
      rw [List.append_cons, ih, linked_snoc]
      rfl

/-- Offered as they stand, the conditions of a chain make up the chain again. -/
theorem linked_eq_self {conditions : List Condition}
    (hfirst : ∀ c ∈ conditions.head?, c.connector = none)
    (hlater : ∀ c ∈ conditions.tail, c.connector.isSome) : linked conditions = conditions := by
  cases conditions with
  | nil => rfl
  | cons first later =>
      have hnone : first.connector = none := hfirst first rfl
      have hfilter : later.filter (fun c => c.connector.isSome) = later :=
        List.filter_eq_self.mpr hlater
      simp [linked, hnone, hfilter]

theorem connector_head_linked {offered : List Condition} {condition : Condition}
    (h : condition ∈ (linked offered).head?) : condition.connector = none := by
  unfold linked at h
  cases hdrop : offered.dropWhile (fun c => c.connector.isSome) with
  | nil => simp [hdrop] at h
  | cons first later =>
      have hfirst := List.head?_dropWhile_not (fun c : Condition => c.connector.isSome) offered
      rw [hdrop] at hfirst h
      simp only [List.head?_cons, Option.mem_def, Option.some.injEq] at h
      subst h
      simpa using hfirst

theorem connector_tail_linked {offered : List Condition} {condition : Condition}
    (h : condition ∈ (linked offered).tail) : condition.connector.isSome := by
  unfold linked at h
  cases hdrop : offered.dropWhile (fun c => c.connector.isSome) with
  | nil => simp [hdrop] at h
  | cons first later =>
      rw [hdrop] at h
      exact (List.mem_filter.mp h).2

theorem mem_of_mem_linked {offered : List Condition} {condition : Condition}
    (h : condition ∈ linked offered) : condition ∈ offered := by
  unfold linked at h
  apply (List.dropWhile_sublist (fun c : Condition => c.connector.isSome)).mem
  cases hdrop : offered.dropWhile (fun c => c.connector.isSome) with
  | nil => simp [hdrop] at h
  | cons first later =>
      rw [hdrop] at h
      exact ((List.filter_sublist).cons_cons first).mem h

/-! ## The step that offers a condition -/

/-- Offering a condition fails with the breach that its connector is, and succeeds otherwise. -/
theorem restrict?_eq (query : Query) (left op right : String) (connector : Option String) :
    query.restrict? left op right connector =
      match connectorFault? query.conditions (given connector) with
      | some fault => .error fault
      | none =>
        .ok { query with
          conditions := query.conditions ++ [{ left, op, right, connector := given connector }] } := by
  unfold Query.restrict?
  cases hchain : query.conditions <;> cases hgiven : given connector <;>
    simp [connectorFault?]

theorem extend?_restrict (query : Query) (left op right : String) (connector : Option String) :
    query.extend? (.restrict left op right connector)
      = query.restrict? left op right connector := rfl

theorem extend?_restrict_of_fits {query : Query} {left op right : String}
    {connector : Option String}
    (h : connectorFault? query.conditions (given connector) = none) :
    query.extend? (.restrict left op right connector) =
      .ok { query with
        conditions := query.conditions ++ [{ left, op, right, connector := given connector }] } := by
  rw [extend?_restrict, restrict?_eq, h]

theorem extend?_restrict_of_fault {query : Query} {left op right : String}
    {connector : Option String} {fault : ChainFault}
    (h : connectorFault? query.conditions (given connector) = some fault) :
    query.extend? (.restrict left op right connector) = .error fault := by
  rw [extend?_restrict, restrict?_eq, h]

/-- A refused step leaves the whole query as it was. -/
theorem perform_of_refused {query : Query} {step : Step} {fault : ChainFault}
    (h : query.extend? step = .error fault) : query.perform step = query := by
  simp [Query.perform, h]

/-- Done or refused, the step leaves all but the filter as it was. -/
theorem perform_restrict (query : Query) (left op right : String) (connector : Option String) :
    query.perform (.restrict left op right connector) =
      { query with
        conditions :=
          extendChain query.conditions { left, op, right, connector := given connector } } := by
  cases h : connectorFault? query.conditions (given connector) with
  | none => simp [Query.perform, extend?_restrict_of_fits h, extendChain, h]
  | some fault => simp [perform_of_refused (extend?_restrict_of_fault h), extendChain, h]

end CompactQuery
