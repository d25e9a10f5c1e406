import Mathlib.Data.Finset.Card
import Mathlib.Data.List.Sort
import Mathlib.Data.String.Basic
import SchemaCodegen.Proofs.Code.Imports

/-!
# Proofs: the order of calls leaves no trace in an import block

An import block is filled by calls, in any order and with any repetitions. It holds what the calls
name. Its text is made of lists in increasing order: the modules that names come from, the names of
each of them, and the modules imported as a whole. There is one increasing list of given texts, so
two runs of calls that name the same imports leave the same text.
-/

namespace SchemaCodegen.Code.Imports

open SchemaCodegen.Text

/-! ## Runs of calls -/

/-- A call that records imports. -/
inductive Recording where
  /-- Records one name of a module. -/
  | one (module name : String)
  /-- Records several names, each given with its module. -/
  | many (pairs : List (String × String))
  /-- Records a module as a whole. -/
  | whole (module : String)
  deriving DecidableEq, Repr

namespace Recording

/-- The names that a call records. -/
def pairs : Recording → List (String × String)
  | .one module name => [(module, name)]
  | .many pairs => pairs
  | .whole _ => []

/-- The modules that a call records as a whole. -/
def modules : Recording → List String
  | .one _ _ => []
  | .many _ => []
  | .whole module => [module]

/-- What a call does to a block. -/
def record (imports : Imports) : Recording → Imports
  | .one module name => imports.addName module name
  | .many pairs => imports.addNames pairs
  | .whole module => imports.addModule module

end Recording

/-- The block that a run of calls leaves. -/
def recorded (calls : List Recording) : Imports :=
  calls.foldl Recording.record {}

/-- The names that some call of a run records. -/
def pairsOf (calls : List Recording) : Finset (String × String) :=
  (calls.flatMap Recording.pairs).toFinset

/-- The modules that some call of a run records as a whole. -/
def modulesOf (calls : List Recording) : Finset String :=
  (calls.flatMap Recording.modules).toFinset

/-! ## What a run leaves -/

/-- The block holds the given names and modules, each of them once. -/
structure Holds (imports : Imports) (pairs : Finset (String × String)) (modules : Finset String) :
    Prop where
  nodup_pairs : imports.pairs.Nodup
  nodup_modules : imports.modules.Nodup
  mem_pairs : ∀ pair, pair ∈ imports.pairs ↔ pair ∈ pairs
  mem_modules : ∀ module, module ∈ imports.modules ↔ module ∈ modules

namespace Holds

variable {imports : Imports} {pairs : Finset (String × String)} {modules : Finset String}

theorem empty : Holds {} ∅ ∅ where
  nodup_pairs := List.nodup_nil
  nodup_modules := List.nodup_nil
  mem_pairs pair := by simp
  mem_modules module := by simp

theorem addName (h : imports.Holds pairs modules) (module name : String) :
    (imports.addName module name).Holds (pairs ∪ {(module, name)}) modules where
  nodup_pairs := nodup_insertNew _ h.nodup_pairs
  nodup_modules := h.nodup_modules
  mem_pairs pair := by
    rw [Imports.addName, mem_insertNew, h.mem_pairs, Finset.mem_union, Finset.mem_singleton]
  mem_modules := h.mem_modules

theorem addNames (h : imports.Holds pairs modules) (new : List (String × String)) :
    (imports.addNames new).Holds (pairs ∪ new.toFinset) modules := by
  induction new generalizing imports pairs with
  | nil => simpa [Imports.addNames] using h
  | cons pair new ih =>
    have hrest := ih (h.addName pair.1 pair.2)
    rw [List.toFinset_cons, Finset.insert_eq, ← Finset.union_assoc]
    exact hrest

theorem addModule (h : imports.Holds pairs modules) (module : String) :
    (imports.addModule module).Holds pairs (modules ∪ {module}) where
  nodup_pairs := h.nodup_pairs
  nodup_modules := nodup_insertNew _ h.nodup_modules
  mem_pairs := h.mem_pairs
  mem_modules other := by
    rw [Imports.addModule, mem_insertNew, h.mem_modules, Finset.mem_union, Finset.mem_singleton]

/-- A call adds what it records to what the block holds. -/
theorem record (h : imports.Holds pairs modules) (call : Recording) :
    (call.record imports).Holds (pairs ∪ call.pairs.toFinset)
      (modules ∪ call.modules.toFinset) := by
  cases call with
  | one module name =>
    have hadd := h.addName module name
    simpa [Recording.record, Recording.pairs, Recording.modules] using hadd
  | many new =>
    have hadd := h.addNames new
    simpa [Recording.record, Recording.pairs, Recording.modules] using hadd
  | whole module =>
    have hadd := h.addModule module
    simpa [Recording.record, Recording.pairs, Recording.modules] using hadd

/-- A run of calls adds what its calls record. -/
theorem foldl_record (h : imports.Holds pairs modules) (calls : List Recording) :
    (calls.foldl Recording.record imports).Holds (pairs ∪ pairsOf calls)
      (modules ∪ modulesOf calls) := by
  induction calls generalizing imports pairs modules with
  | nil => simpa [pairsOf, modulesOf] using h
  | cons call calls ih =>
    have hpairs : pairsOf (call :: calls) = call.pairs.toFinset ∪ pairsOf calls := by
      simp [pairsOf]
    have hmodules : modulesOf (call :: calls) = call.modules.toFinset ∪ modulesOf calls := by
      simp [modulesOf]
    rw [hpairs, hmodules, ← Finset.union_assoc, ← Finset.union_assoc]
    exact ih (h.record call)

theorem recorded (calls : List Recording) :
    (recorded calls).Holds (pairsOf calls) (modulesOf calls) := by
  have hrun := empty.foldl_record calls
  rwa [Finset.empty_union, Finset.empty_union] at hrun

theorem contains_iff (h : imports.Holds pairs modules) {module name : String} :
    imports.contains module name = true ↔ (module, name) ∈ pairs := by
  rw [contains, List.contains_iff_mem, h.mem_pairs]

theorem size_eq (h : imports.Holds pairs modules) :
    imports.size = pairs.card + modules.card := by
  have hpairs : imports.pairs.toFinset = pairs := by
    ext pair
    rw [List.mem_toFinset, h.mem_pairs]
  have hmodules : imports.modules.toFinset = modules := by
    ext module
    rw [List.mem_toFinset, h.mem_modules]
  rw [size, ← List.toFinset_card_of_nodup h.nodup_pairs,
    ← List.toFinset_card_of_nodup h.nodup_modules, hpairs, hmodules]

end Holds

/-! ## Increasing lists -/

/-- The list holds the given texts in strictly increasing order, by code points. -/
structure Lists (texts : List String) (members : Finset String) : Prop where
  /-- Each text is smaller than all that follow. -/
  increasing : texts.Pairwise (· < ·)
  /-- The texts are the given ones. -/
  mem_iff : ∀ text, text ∈ texts ↔ text ∈ members

/-- There is one increasing list of given texts. -/
theorem Lists.unique {texts others : List String} {members : Finset String}
    (h : Lists texts members) (h' : Lists others members) : texts = others := by
  have hnodup : texts.Nodup := h.increasing.imp ne_of_lt
  have hnodup' : others.Nodup := h'.increasing.imp ne_of_lt
  have hperm : texts.Perm others := by
    refine (List.perm_ext_iff_of_nodup hnodup hnodup').2 ?_
    intro text
    rw [h.mem_iff, h'.mem_iff]
  refine hperm.eq_of_pairwise ?_ h.increasing h'.increasing
  intro a b _ _ hab hba
  exact absurd hab (lt_asymm hba)

/-- Sorting texts without repetition lists them. -/
theorem lists_sorted {texts : List String} {members : Finset String} (hnodup : texts.Nodup)
    (hmem : ∀ text, text ∈ texts ↔ text ∈ members) : Lists (sorted texts) members where
  increasing := by
    have hle : (sorted texts).Pairwise (· ≤ ·) := List.pairwise_mergeSort' (· ≤ ·) texts
    have hne : (sorted texts).Nodup := (List.mergeSort_perm _ _).nodup_iff.2 hnodup
    exact (hle.and hne).imp fun h => lt_of_le_of_ne h.1 h.2
  mem_iff text := by rw [mem_sorted, hmem]

/-! ## The text of a block -/

/-- The names that are given with a module. -/
def namesOf (pairs : Finset (String × String)) (module : String) : Finset String :=
  (pairs.filter fun pair => pair.1 = module).image Prod.snd

/-- The text of a block that holds the given names and modules: a line for each module that names
come from, which lists its names, then a line for each module imported as a whole. All the lists are
increasing. -/
structure IsBlock (text : String) (pairs : Finset (String × String)) (modules : Finset String)
    (sources : List String) (names : String → List String) (wholes : List String) : Prop where
  /-- The modules that names come from. -/
  lists_sources : Lists sources (pairs.image Prod.fst)
  /-- The names from a module. -/
  lists_names : ∀ module, Lists (names module) (namesOf pairs module)
  /-- The modules that are imported as a whole. -/
  lists_wholes : Lists wholes modules
  /-- The lines. -/
  text_eq : text = joinLines
    (sources.map (fun module => "from " ++ module ++ " import " ++ commaSeparated (names module)) ++
      wholes.map ("import " ++ ·))

/-- Blocks that hold the same have the same text. -/
theorem IsBlock.unique {text other : String} {pairs : Finset (String × String)}
    {modules : Finset String} {sources sources' : List String}
    {names names' : String → List String} {wholes wholes' : List String}
    (h : IsBlock text pairs modules sources names wholes)
    (h' : IsBlock other pairs modules sources' names' wholes') : text = other := by
  have hsources : sources = sources' := h.lists_sources.unique h'.lists_sources
  have hnames : names = names' := by
    funext module
    exact (h.lists_names module).unique (h'.lists_names module)
  have hwholes : wholes = wholes' := h.lists_wholes.unique h'.lists_wholes
  rw [h.text_eq, h'.text_eq, hsources, hnames, hwholes]

theorem nodup_foldl_insertNew {items new : List String} (h : items.Nodup) :
    (new.foldl insertNew items).Nodup := by
  induction new generalizing items with
  | nil => exact h
  | cons item new ih => exact ih (nodup_insertNew item h)

theorem nodup_namesFrom {imports : Imports} (h : imports.pairs.Nodup) (module : String) :
    (imports.namesFrom module).Nodup := by
  refine List.Nodup.map_on ?_ (h.filter _)
  intro pair hpair other hother hname
  -- the pairs that are left have the same module
  have hmodule : pair.1 = module := by simpa using (List.mem_filter.1 hpair).2
  have hmodule' : other.1 = module := by simpa using (List.mem_filter.1 hother).2
  exact Prod.ext (hmodule.trans hmodule'.symm) hname

theorem Holds.isBlock_render {imports : Imports} {pairs : Finset (String × String)}
    {modules : Finset String} (h : imports.Holds pairs modules) :
    IsBlock imports.render pairs modules (sorted imports.sources)
      (fun module => sorted (imports.namesFrom module)) (sorted imports.modules) where
  lists_sources := by
    refine lists_sorted (nodup_foldl_insertNew List.nodup_nil) ?_
    intro module
    simp [mem_sources, h.mem_pairs]
  lists_names module := by
    refine lists_sorted (nodup_namesFrom h.nodup_pairs module) ?_
    intro name
    simp [mem_namesFrom, h.mem_pairs, namesOf]
  lists_wholes := lists_sorted h.nodup_modules h.mem_modules
  text_eq := rfl

/-! ## The block of a run -/

/-- What a run of calls leaves depends on what the calls record, and on nothing else. -/
structure HoldsExactlyRecorded (calls : List Recording) : Prop where
  /-- The block contains a name exactly when some call records it. -/
  contains_iff : ∀ module name,
    (recorded calls).contains module name = true ↔ (module, name) ∈ pairsOf calls
  /-- Its size is the number of different names and whole modules. -/
  size_eq : (recorded calls).size = (pairsOf calls).card + (modulesOf calls).card
  /-- Its text lists everything in increasing order. -/
  isBlock : ∃ sources names wholes,
    IsBlock (recorded calls).render (pairsOf calls) (modulesOf calls) sources names wholes
  /-- Another run that records the same leaves the same text and size. -/
  alike : ∀ others, pairsOf others = pairsOf calls → modulesOf others = modulesOf calls →
    (recorded others).render = (recorded calls).render ∧
      (recorded others).size = (recorded calls).size

/-- What a run leaves is told by the names and modules that its calls record. -/
theorem holdsExactlyRecorded (calls : List Recording) : HoldsExactlyRecorded calls := by
  have hholds := Holds.recorded calls
  refine { contains_iff := ?_, size_eq := hholds.size_eq, isBlock := ?_, alike := ?_ }
  · -- contains_iff
    intro module name
    exact hholds.contains_iff
  · -- isBlock
    exact ⟨_, _, _, hholds.isBlock_render⟩
  · -- alike
    intro others hpairs hmodules
    have hothers := Holds.recorded others
    rw [hpairs, hmodules] at hothers
    refine ⟨hothers.isBlock_render.unique hholds.isBlock_render, ?_⟩
    rw [hothers.size_eq, hholds.size_eq]

end SchemaCodegen.Code.Imports
