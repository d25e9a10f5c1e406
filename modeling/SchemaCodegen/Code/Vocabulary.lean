import SchemaCodegen.Code.Expression

/-!
# The vocabulary of generated code

The symbols that generated code uses besides the column types of a dialect, each with its home.
-/

namespace SchemaCodegen.Code.Vocabulary

/-- A symbol of the core of the database library. -/
def core (name : String) : Symbol :=
  ⟨.importedFrom "sqlalchemy", name⟩

/-- A symbol of the object-relational part of the database library. -/
def orm (name : String) : Symbol :=
  ⟨.importedFrom "sqlalchemy.orm", name⟩

/-- A symbol of the typing module. -/
def typing (name : String) : Symbol :=
  ⟨.importedFrom "typing", name⟩

/-- A symbol that needs no import. -/
def builtin (name : String) : Symbol :=
  ⟨.builtin, name⟩

/-- A member of a module of the standard library. -/
def member (module name : String) : Symbol :=
  ⟨.memberOf module, name⟩

/-- The keyword argument that gives a constraint or type its name. -/
def named (name : String) : Expr :=
  .keyword "name" (.literal name)

/-- A keyword argument that is switched on. -/
def flag (name : String) : Expr :=
  .keyword name (.truth true)

end SchemaCodegen.Code.Vocabulary
