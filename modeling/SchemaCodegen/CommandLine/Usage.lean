import SchemaCodegen.CommandLine.Misuse

/-!
# Texts about the command line

The help text, the version, and what is told when the command line is misused.
-/

namespace SchemaCodegen.CommandLine

open SchemaCodegen.Text (Holding)

variable [Holding]

/-- How the command line is used, in short. -/
def usageText : String :=
  "usage: uvg [-h] [--version] [--generator NAME] [--options OPTS]\n" ++
  "           [--schemas NAMES] [--tables NAMES] [--noviews] [-o PATH] [-v] [-q]\n" ++
  "           SCHEMA_FILE\n"

/-- How the command line is used, in full. -/
def helpText : String :=
  usageText ++
  "\n" ++
  "Generate SQLAlchemy model code from an introspected database schema dump (JSON or YAML).\n" ++
  "\n" ++
  "positional arguments:\n" ++
  "  SCHEMA_FILE           Path to the introspected schema dump (JSON or YAML).\n" ++
  "\n" ++
  "options:\n" ++
  "  -h, --help            show this help message and exit\n" ++
  "  --version             show program's version number and exit\n" ++
  "  -o PATH, --outfile PATH\n" ++
  "                        Write the generated module here instead of standard\n" ++
  "                        output.\n" ++
  "\n" ++
  "generation:\n" ++
  "  --generator NAME      Output style: declarative (default) or tables.\n" ++
  "  --options OPTS        Comma-delimited generator options: noindexes,\n" ++
  "                        noconstraints, nocomments, use_inflect, nojoined,\n" ++
  "                        nobidi.\n" ++
  "\n" ++
  "table selection:\n" ++
  "  --schemas NAMES       Comma-delimited schemas to include (default: all).\n" ++
  "  --tables NAMES        Comma-delimited table names to include (default: all).\n" ++
  "  --noviews             Ignore views.\n" ++
  "\n" ++
  "verbosity:\n" ++
  "  -v, --verbose         Increase verbosity (-v for INFO, -vv for DEBUG).\n" ++
  "  -q, --quiet           Suppress all log output except critical errors.\n" ++
  "\n" ++
  "Examples:\n" ++
  "  uvg schema.yaml\n" ++
  "  uvg schema.json --generator tables -o models.py\n" ++
  "  uvg schema.yaml --options noindexes,nocomments --noviews\n"

/-- The version of the program. -/
def versionText : String :=
  "uvg v0.1.0\n"

/-- What is told when the command line is misused. -/
def Misuse.report (misuse : Misuse) : String :=
  usageText ++ "uvg: error: " ++ misuse.message ++ "\n"

end SchemaCodegen.CommandLine
