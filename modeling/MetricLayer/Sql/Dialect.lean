import MetricLayer.Text.Quoted

/-!
# SQL dialects

The three dialects that queries are written in. They quote names and strings alike, and differ in
the sign of a placeholder, in case-insensitive matching, and in how a timestamp is truncated.
-/

namespace MetricLayer

/-- A dialect of SQL. -/
inductive Dialect where
  /-- PostgreSQL. -/
  | postgres
  /-- DuckDB. -/
  | duckdb
  /-- SQLite. -/
  | sqlite
  deriving DecidableEq, Repr

namespace Dialect

/-- Every dialect. -/
def all : List Dialect := [postgres, duckdb, sqlite]

/-- The name of a dialect. -/
def name : Dialect → String
  | postgres => "postgres"
  | duckdb => "duckdb"
  | sqlite => "sqlite"

/-- The dialect of a name, exactly as it is written. -/
def ofName? (s : String) : Option Dialect :=
  all.find? fun d => d.name == s

/-- A character in lower case, as far as that is ASCII: outside ASCII only the Kelvin sign has a
lower case in ASCII. -/
def lowerToAscii (c : Char) : Char :=
  if c = '\u212a' then 'k' else c.toLower

/-- The dialect of a keyword in any case; `postgresql` is a second keyword of `postgres`. -/
def ofKeyword? (s : String) : Option Dialect :=
  let lower := s.map lowerToAscii
  if lower = "postgresql" then some postgres else ofName? lower

/-- The sign before the number of a placeholder. -/
def sigil : Dialect → Char
  | postgres => '$'
  | duckdb => '$'
  | sqlite => '?'

/-- The placeholder of the parameter with a number. -/
def placeholder (d : Dialect) (n : Nat) : String :=
  String.ofList (d.sigil :: Nat.toDigits 10 n)

/-- The dialect has an operator for case-insensitive matching. -/
def hasILike : Dialect → Bool
  | postgres => true
  | duckdb => true
  | sqlite => false

end Dialect

/-- A name between double quotes. -/
def quoteIdentifier (s : String) : String :=
  Text.quoted '"' s

/-- A string literal between single quotes. -/
def quoteString (s : String) : String :=
  Text.quoted '\'' s

end MetricLayer
