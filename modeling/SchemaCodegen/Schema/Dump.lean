import SchemaCodegen.Schema.Reading

/-!
# Schemas in dumps

A dump has its schema under the key `schema`, or is itself the schema, told by its key `tables`. A
mapping under `schema` goes first; any other value there counts for nothing.
-/

namespace SchemaCodegen.Schema

open SchemaCodegen.Text (Holding)

variable [Holding]

/-- Why a dump gives no schema. -/
inductive DumpError where
  /-- The dump has a schema in neither place. -/
  | noSchema
  /-- The schema has faults. -/
  | invalid (faults : List Fault)
  deriving DecidableEq, Repr

/-- The error in words; the faults are listed apart. -/
def DumpError.message : DumpError → String
  | noSchema =>
    "Cannot find schema in input. Expected a top-level 'tables' list or a 'schema' mapping."
  | invalid _ => "Schema validation failed"

/-- The part of a dump that describes the schema. -/
def dumpBody? (dump : Document) : Option Document :=
  match dump.get? "schema" with
  | some (.mapping entries) => some (.mapping entries)
  | _ => if (dump.get? "tables").isSome then some dump else none

/-- The schema of a dump. -/
def ofDump (dump : Document) : Except DumpError Schema :=
  match dumpBody? dump with
  | none => .error .noSchema
  | some body =>
    match read body with
    | .ok schema => .ok schema
    | .faulty faults => .error (.invalid faults)

end SchemaCodegen.Schema
