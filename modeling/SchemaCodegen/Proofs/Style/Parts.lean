import SchemaCodegen.Style

/-!
# Proofs: what the parts of a block are

Attributes, classes and assignments are put together from a few kinds of arguments. Each lemma says
of one part what its members are; what holds of all of these holds of the part.
-/

namespace SchemaCodegen

open SchemaCodegen.Code SchemaCodegen.Code.Vocabulary

variable {table : Table} {column : Column} {dialect : Dialect} {options : Options} {e : Expr}

/-! ## Parts in every style -/

namespace Code

theorem exists_of_mem_defaultArgument (h : e ∈ defaultArgument column dialect) :
    ∃ expression, e = .keyword "server_default" (ServerDefault.toExpr expression dialect) := by
  obtain ⟨default, hdefault, rfl⟩ := Option.map_eq_some_iff.1 (Option.mem_toList.1 h)
  unfold ServerDefault.forColumn at hdefault
  split at hdefault
  · cases hdefault
  · split at hdefault
    · cases hdefault
    · cases hdefault
      exact ⟨_, rfl⟩

theorem exists_of_mem_commentArguments {comment : Option String}
    (h : e ∈ commentArguments comment options) : ∃ text, e = commentArgument text := by
  unfold commentArguments at h
  split at h
  · cases h
  · obtain ⟨text, _, rfl⟩ := Option.map_eq_some_iff.1 (Option.mem_toList.1 h)
    exact ⟨text, rfl⟩

theorem exists_of_mem_identity (h : e ∈ (identityDeclaration? column dialect).toList) :
    ∃ args, e = .call (core "Identity") args := by
  rw [Option.mem_toList] at h
  unfold identityDeclaration? at h
  split at h
  · cases h
    exact ⟨_, rfl⟩
  · cases h

theorem exists_of_mem_foreignKeys {constraints : List Constraint}
    (h : e ∈ constraints.filterMap (foreignKeyConstraint? dialect)) :
    ∃ constraint target, e = foreignKeyConstraint constraint target dialect := by
  obtain ⟨constraint, _, hsome⟩ := List.mem_filterMap.1 h
  obtain ⟨target, _, rfl⟩ := Option.map_eq_some_iff.1 hsome
  exact ⟨constraint, target, rfl⟩

end Code

/-! ## Parts of classes -/

namespace Declarative

theorem eq_of_mem_nameArgument {name : String} (h : e ∈ nameArgument column name) :
    e = .literal column.name := by
  unfold nameArgument at h
  split at h
  · cases h
  · exact List.mem_singleton.1 h

theorem exists_of_mem_referenceArgument (h : e ∈ referenceArgument table column dialect options) :
    ∃ target, e = columnReference target dialect := by
  unfold referenceArgument at h
  split at h
  · cases h
  · obtain ⟨target, _, rfl⟩ := Option.map_eq_some_iff.1 (Option.mem_toList.1 h)
    exact ⟨target, rfl⟩

theorem eq_of_mem_primaryKeyArgument (h : e ∈ primaryKeyArgument table column) :
    e = flag "primary_key" := by
  unfold primaryKeyArgument at h
  split at h
  · exact List.mem_singleton.1 h
  · cases h

theorem eq_of_mem_uniqueArgument (h : e ∈ uniqueArgument table column options) :
    e = flag "unique" := by
  unfold uniqueArgument at h
  split at h
  · exact List.mem_singleton.1 h
  · cases h

theorem cases_of_mem_constraintArguments (h : e ∈ constraintArguments table dialect options) :
    (∃ constraint target, e = foreignKeyConstraint constraint target dialect) ∨
      ∃ constraint, e = uniqueConstraint constraint := by
  unfold constraintArguments at h
  split at h
  · cases h
  · rcases List.mem_append.1 h with hkey | hunique
    · exact Or.inl (exists_of_mem_foreignKeys hkey)
    · obtain ⟨constraint, _, rfl⟩ := List.mem_map.1 hunique
      exact Or.inr ⟨constraint, rfl⟩

theorem exists_of_mem_indexArguments (h : e ∈ indexArguments table options) :
    ∃ index, e = indexDeclaration index := by
  unfold indexArguments at h
  split at h
  · cases h
  · obtain ⟨index, _, rfl⟩ := List.mem_map.1 h
    exact ⟨index, rfl⟩

theorem exists_of_mem_keywordArguments (h : e ∈ keywordArguments table dialect options) :
    ∃ entries, e = .dict entries := by
  unfold keywordArguments at h
  split at h
  · cases h
  · exact ⟨_, List.mem_singleton.1 h⟩

end Declarative

/-! ## Parts of assignments -/

namespace TableObjects

theorem cases_of_mem_keyArgument (h : e ∈ keyArgument table column) :
    e = flag "primary_key" ∨ e = .keyword "nullable" (.truth false) := by
  unfold keyArgument at h
  split at h
  · exact Or.inl (List.mem_singleton.1 h)
  · split at h
    · cases h
    · exact Or.inr (List.mem_singleton.1 h)

theorem exists_of_mem_columns (h : e ∈ table.columns.map (columnItem table dialect options)) :
    ∃ column, e = columnItem table dialect options column := by
  obtain ⟨column, _, rfl⟩ := List.mem_map.1 h
  exact ⟨column, rfl⟩

theorem cases_of_mem_constraintItems (h : e ∈ constraintItems table dialect options) :
    (∃ constraint target, e = foreignKeyConstraint constraint target dialect) ∨
      (∃ constraint, e = primaryKeyConstraint constraint) ∨
        ∃ constraint, e = uniqueConstraint constraint := by
  unfold constraintItems at h
  split at h
  · cases h
  · simp only [List.mem_append, List.mem_map] at h
    rcases h with (hkey | ⟨constraint, _, rfl⟩) | ⟨constraint, _, rfl⟩
    · exact Or.inl (exists_of_mem_foreignKeys hkey)
    · exact Or.inr (Or.inl ⟨constraint, rfl⟩)
    · exact Or.inr (Or.inr ⟨constraint, rfl⟩)

theorem exists_of_mem_indexItems (h : e ∈ indexItems table options) :
    ∃ index, e = indexDeclaration index := by
  unfold indexItems at h
  split at h
  · cases h
  · obtain ⟨index, _, rfl⟩ := List.mem_map.1 h
    exact ⟨index, rfl⟩

theorem exists_of_mem_schemaItems (h : e ∈ schemaItems table dialect) :
    ∃ owner, e = .keyword "schema" (.literal owner) := by
  obtain ⟨owner, _, rfl⟩ := Option.map_eq_some_iff.1 (Option.mem_toList.1 h)
  exact ⟨owner, rfl⟩

end TableObjects

end SchemaCodegen
