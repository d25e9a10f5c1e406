import SchemaCodegen.Code.Expression
import SchemaCodegen.Proofs.Text.Plain

/-!
# Proofs: expressions of a vocabulary

The names that an expression writes outside its literals are those of its symbols and of its
keywords. An expression is plain if all of them are.
-/

namespace SchemaCodegen.Code

open SchemaCodegen.Text

/-! ## Symbols -/

/-- A home whose module, if there is one, has a plain name. -/
def Home.IsPlain : Home → Prop
  | .builtin => True
  | .importedFrom module => Text.IsPlain module
  | .memberOf module => Text.IsPlain module

instance : DecidablePred Home.IsPlain
  | .builtin => inferInstanceAs (Decidable True)
  | .importedFrom module => inferInstanceAs (Decidable (Text.IsPlain module))
  | .memberOf module => inferInstanceAs (Decidable (Text.IsPlain module))

/-- A symbol that is plain itself and comes from a module with a plain name. -/
structure Symbol.IsPlain (symbol : Symbol) : Prop where
  /-- The home of the symbol is plain. -/
  home : symbol.home.IsPlain
  /-- The name of the symbol is plain. -/
  name : Text.IsPlain symbol.name

instance (symbol : Symbol) : Decidable symbol.IsPlain :=
  decidable_of_iff (symbol.home.IsPlain ∧ Text.IsPlain symbol.name)
    ⟨fun h => ⟨h.1, h.2⟩, fun h => ⟨h.home, h.name⟩⟩

/-- A plain symbol is written plainly. -/
theorem Symbol.IsPlain.render {symbol : Symbol} (h : symbol.IsPlain) :
    Text.IsPlain symbol.render := by
  obtain ⟨home, name⟩ := symbol
  cases home with
  | builtin => exact h.name
  | importedFrom module => exact h.name
  | memberOf module =>
    have hmodule : Text.IsPlain module := h.home
    exact (hmodule.append (isMadeOf_of_all rfl)).append h.name

/-- The module that the symbol is imported from by name. -/
def Symbol.source? (symbol : Symbol) : Option String :=
  match symbol.home with
  | .importedFrom module => some module
  | _ => none

/-- The module that is imported as a whole for the symbol. -/
def Symbol.whole? (symbol : Symbol) : Option String :=
  match symbol.home with
  | .memberOf module => some module
  | _ => none

theorem Symbol.mem_whole? {symbol : Symbol} {module : String}
    (h : symbol.home = .memberOf module) : module ∈ symbol.whole? := by
  unfold Symbol.whole?
  rw [h]
  rfl

/-- A symbol that is written with names: its own, and that of a module it is a member of. -/
structure Symbol.IsWord (symbol : Symbol) : Prop where
  /-- The symbol has a name. -/
  name_ne : symbol.name ≠ ""
  /-- It is one. -/
  name : IsName symbol.name
  /-- The module has a name. -/
  whole_ne : ∀ module ∈ symbol.whole?, module ≠ ""
  /-- It is one. -/
  whole : ∀ module ∈ symbol.whole?, IsName module

instance (symbol : Symbol) : Decidable symbol.IsWord :=
  decidable_of_iff
    (symbol.name ≠ "" ∧ IsName symbol.name ∧ (∀ module ∈ symbol.whole?, module ≠ "") ∧
      ∀ module ∈ symbol.whole?, IsName module)
    ⟨fun ⟨a, b, c, d⟩ => ⟨a, b, c, d⟩, fun ⟨a, b, c, d⟩ => ⟨a, b, c, d⟩⟩

/-- A symbol made of names from a plain module is plain. -/
theorem Symbol.IsWord.isPlain {symbol : Symbol} (h : symbol.IsWord)
    (hsource : ∀ module ∈ symbol.source?, Text.IsPlain module) : symbol.IsPlain := by
  obtain ⟨home, name⟩ := symbol
  refine { home := ?_, name := isPlain_of_isName h.name }
  cases home with
  | builtin => exact trivial
  | importedFrom module => exact hsource module rfl
  | memberOf module => exact isPlain_of_isName (h.whole module rfl)

/-! ## Expressions -/

/-- An expression whose symbols satisfy `p` and whose keywords satisfy `k`. What its literals and
numbers are does not matter. -/
inductive Expr.UsesOnly (p : Symbol → Prop) (k : String → Prop) : Expr → Prop where
  /-- A symbol by itself. -/
  | symbol {symbol : Symbol} (h : p symbol) : UsesOnly p k (.symbol symbol)
  /-- A literal, whatever its text. -/
  | literal {text : String} : UsesOnly p k (.literal text)
  /-- A number. -/
  | number {value : Int} : UsesOnly p k (.number value)
  /-- A truth value. -/
  | truth {value : Bool} : UsesOnly p k (.truth value)
  /-- A call of such a symbol with such arguments. -/
  | call {callee : Symbol} {args : List Expr} (h : p callee)
    (hargs : ∀ arg ∈ args, UsesOnly p k arg) : UsesOnly p k (.call callee args)
  /-- An argument of that kind, given by such a keyword. -/
  | keyword {name : String} {value : Expr} (h : k name) (hvalue : UsesOnly p k value) :
    UsesOnly p k (.keyword name value)
  /-- Such a generic type applied to a type of that kind. -/
  | index {head : Symbol} {item : Expr} (h : p head) (hitem : UsesOnly p k item) :
    UsesOnly p k (.index head item)
  /-- A list of such expressions. -/
  | list {items : List Expr} (hitems : ∀ item ∈ items, UsesOnly p k item) :
    UsesOnly p k (.list items)
  /-- A tuple of such expressions. -/
  | tuple {items : List Expr} (hitems : ∀ item ∈ items, UsesOnly p k item) :
    UsesOnly p k (.tuple items)
  /-- A dictionary, whatever its texts. -/
  | dict {entries : List (String × String)} : UsesOnly p k (.dict entries)

section UsesOnly

variable {p q : Symbol → Prop} {k l : String → Prop}

/-- The symbols of such an expression satisfy the condition. -/
theorem Expr.UsesOnly.symbols {e : Expr} (h : e.UsesOnly p k) : ∀ s ∈ e.symbols, p s := by
  have hall : ∀ {es : List Expr}, (∀ e ∈ es, ∀ s ∈ e.symbols, p s) →
      ∀ s ∈ symbolsOfAll es, p s := by
    intro es hes s hs
    rw [symbolsOfAll_eq_flatMap, List.mem_flatMap] at hs
    obtain ⟨e, he, hs⟩ := hs
    exact hes e he s hs
  induction h with
  | symbol h => simpa [Expr.symbols] using h
  | literal => simp [Expr.symbols]
  | number => simp [Expr.symbols]
  | truth => simp [Expr.symbols]
  | call h _ ih => simpa [Expr.symbols, h] using hall ih
  | keyword _ _ ih => simpa [Expr.symbols] using ih
  | index h _ ih => simpa [Expr.symbols, h] using ih
  | list _ ih => simpa [Expr.symbols] using hall ih
  | tuple _ ih => simpa [Expr.symbols] using hall ih
  | dict => simp [Expr.symbols]

theorem Expr.UsesOnly.mono {e : Expr} (h : e.UsesOnly p k) (hpq : ∀ s, p s → q s)
    (hkl : ∀ name, k name → l name) : e.UsesOnly q l := by
  induction h with
  | symbol h => exact .symbol (hpq _ h)
  | literal => exact .literal
  | number => exact .number
  | truth => exact .truth
  | call h _ ih => exact .call (hpq _ h) ih
  | keyword h _ ih => exact .keyword (hkl _ h) ih
  | index h _ ih => exact .index (hpq _ h) ih
  | list _ ih => exact .list ih
  | tuple _ ih => exact .tuple ih
  | dict => exact .dict

end UsesOnly

/-- Whether an expression is an argument given by name. -/
def Expr.isKeyword : Expr → Bool
  | .keyword _ _ => true
  | _ => false

/-- An expression that writes only plain names outside its literals. -/
abbrev Expr.IsPlain (e : Expr) : Prop :=
  e.UsesOnly Symbol.IsPlain Text.IsPlain

end SchemaCodegen.Code
