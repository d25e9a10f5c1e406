import SchemaCodegen.Proofs.Dependency.TableOrder

/-!
# Proofs: the edges that a foreign key gives

The edges of a table are those of its foreign keys. A foreign key gives none if it refers to its own
table or to one that is not listed; these are the only reasons.
-/

namespace SchemaCodegen.Dependency

variable {tables : List Table} {position : Nat} {table : Table}

theorem mem_referencesOf {node : Nat} :
    node ∈ referencesOf tables position table ↔
      node ≠ position ∧ ∃ key ∈ referencedKeys table, positionOf? tables key = some node := by
  simp only [referencesOf, List.mem_filter, List.mem_range, Bool.and_eq_true, bne_iff_ne,
    List.contains_iff_mem, List.mem_filterMap]
  refine and_iff_right_of_imp ?_
  rintro ⟨_, key, _, hfound⟩
  exact (List.findIdx?_eq_some_iff_getElem.1 hfound).1

/-- The edges that the table at a position has if only this constraint is looked at. -/
def edgesOf (tables : List Table) (position : Nat) (table : Table) (constraint : Constraint) :
    List Nat :=
  referencesOf tables position { table with constraints := [constraint] }

theorem referencedKeys_single (table : Table) (constraint : Constraint) :
    referencedKeys { table with constraints := [constraint] } =
      (constraint.target?.map fun target => (target.schema, target.table)).toList := by
  unfold referencedKeys
  cases htarget : constraint.target? with
  | none => rw [List.filterMap_cons_none (by rw [htarget]; rfl)]; rfl
  | some target => rw [List.filterMap_cons_some (by rw [htarget]; rfl)]; rfl

theorem mem_edgesOf {constraint : Constraint} {node : Nat} :
    node ∈ edgesOf tables position table constraint ↔
      node ≠ position ∧ ∃ target, constraint.target? = some target ∧
        positionOf? tables (target.schema, target.table) = some node := by
  unfold edgesOf
  rw [mem_referencesOf, referencedKeys_single]
  simp only [Option.mem_toList, Option.map_eq_some_iff]
  constructor
  · rintro ⟨hne, _, ⟨target, htarget, rfl⟩, hfound⟩
    exact ⟨hne, target, htarget, hfound⟩
  · rintro ⟨hne, target, htarget, hfound⟩
    exact ⟨hne, _, ⟨target, htarget, rfl⟩, hfound⟩

/-- The edges of a table are those of its constraints. -/
theorem edge_graphOf_iff_mem_edgesOf (h : tables[position]? = some table) {node : Nat} :
    (graphOf tables).Edge position node ↔
      ∃ constraint ∈ table.constraints, node ∈ edgesOf tables position table constraint := by
  have hnext : (graphOf tables).next position = referencesOf tables position table := by
    unfold Graph.next graphOf
    rw [List.getElem?_mapIdx, h, Option.map_some, Option.getD_some]
  unfold Graph.Edge
  rw [hnext, mem_referencesOf]
  unfold referencedKeys
  simp only [mem_edgesOf, List.mem_filterMap, Option.map_eq_some_iff]
  constructor
  · rintro ⟨hne, _, ⟨constraint, hmem, target, htarget, rfl⟩, hfound⟩
    exact ⟨constraint, hmem, hne, target, htarget, hfound⟩
  · rintro ⟨constraint, hmem, hne, target, htarget, hfound⟩
    exact ⟨hne, _, ⟨constraint, hmem, target, htarget, rfl⟩, hfound⟩

/-- A table is found under its own key, be it at an earlier position. -/
theorem exists_positionOf?_of_mem {key : String × String} (h : key ∈ tables.map Table.key) :
    ∃ node other, positionOf? tables key = some node ∧ tables[node]? = some other ∧
      other.key = key := by
  obtain ⟨listed, hmem, rfl⟩ := List.mem_map.1 h
  have hfound : (positionOf? tables listed.key).isSome = true := by
    unfold positionOf?
    rw [List.findIdx?_isSome, List.any_eq_true]
    exact ⟨listed, hmem, beq_self_eq_true _⟩
  obtain ⟨node, hnode⟩ := Option.isSome_iff_exists.1 hfound
  obtain ⟨hlt, hkey, _⟩ := List.findIdx?_eq_some_iff_getElem.1 hnode
  exact ⟨node, tables[node], hnode, List.getElem?_eq_getElem hlt, beq_iff_eq.1 hkey⟩

/-- A foreign key refers to a table that is not listed if and only if it does not refer to its own
table and gives no edge. -/
theorem not_mem_keys_iff (h : tables[position]? = some table) {constraint : Constraint}
    {target : ForeignKey} (htarget : constraint.target? = some target) :
    (target.schema, target.table) ∉ tables.map Table.key ↔
      (target.schema, target.table) ≠ table.key ∧
        edgesOf tables position table constraint = [] := by
  constructor
  · intro hout
    constructor
    · intro hself
      apply hout
      rw [hself]
      exact List.mem_map_of_mem (List.mem_of_getElem? h)
    · refine List.eq_nil_iff_forall_not_mem.2 fun node hnode => ?_
      obtain ⟨_, other, hother, hfound⟩ := mem_edgesOf.1 hnode
      obtain rfl : target = other := Option.some.inj (htarget.symm.trans hother)
      obtain ⟨hlt, hkey, _⟩ := List.findIdx?_eq_some_iff_getElem.1 hfound
      apply hout
      rw [← beq_iff_eq.1 hkey]
      exact List.mem_map_of_mem (List.getElem_mem hlt)
  · rintro ⟨hself, hnone⟩ hin
    obtain ⟨node, other, hfound, hother, hkey⟩ := exists_positionOf?_of_mem hin
    by_cases hnode : node = position
    · -- the only table found there is the referring one
      rw [hnode, h] at hother
      obtain rfl : table = other := Option.some.inj hother
      exact hself hkey.symm
    · have hedge : node ∈ edgesOf tables position table constraint :=
        mem_edgesOf.2 ⟨hnode, target, htarget, hfound⟩
      rw [hnone] at hedge
      cases hedge

end SchemaCodegen.Dependency
