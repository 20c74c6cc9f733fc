import MetricLayer.Compile.CompiledQuery
import MetricLayer.Digest.Sha256

/-!
# Handing compiled queries on

A compiled query is told from every other by its fingerprint, printed as JSON or as a listing, and
handed to a connector, which refuses it with a `DialectMismatch` if it is in another dialect than
that of the connector.
-/

namespace MetricLayer

/-! ## Fingerprints and JSON -/

namespace CompiledQuery

/-- What tells an execution from every other: the dialect, the text and the values. -/
def identity (c : CompiledQuery) : Json :=
  .array [.string c.dialect.name, .string c.sql, .array (c.params.map Value.toJson)]

/-- The SHA-256 digest of the identity, in hexadecimal digits. -/
def fingerprint (c : CompiledQuery) : String :=
  Digest.sha256Hex c.identity.compact

/-- The JSON form of an output column. -/
def columnJson (c : Column) : Json :=
  .object [("alias", .string c.aliasName), ("member", .string c.member),
    ("role", .string c.role.name)]

/-- The JSON form of an item of the select list. -/
def selectJson (s : String × String) : Json :=
  .object [("alias", .string s.2), ("expr", .string s.1)]

/-- The JSON form of a compiled query with its fingerprint, keys in alphabetical order. -/
def toJson (c : CompiledQuery) : Json :=
  .object [("columns", .array (c.columns.map columnJson)), ("dialect", .string c.dialect.name),
    ("fingerprint", .string c.fingerprint), ("from", .string c.source),
    ("group_by", Json.ofStrings c.groupBy), ("limit", Json.ofRows c.limit),
    ("offset", Json.ofRows c.offset), ("order_by", Json.ofStrings c.orderBy),
    ("params", .array (c.params.map Value.toJson)), ("predicate", .string c.predicate),
    ("select", .array (c.selectTexts.map selectJson)), ("sql", .string c.sql)]

end CompiledQuery

/-! ## Listings

The SQL of a compiled query with its values in comments behind it, so that the whole is still that
query: a value is written as JSON, which has no line break, on a line of its own.
-/

/-- The comment that tells the value of the placeholder of a number. -/
def valueComment (d : Dialect) (n : Nat) (v : Value) : String :=
  "-- " ++ d.placeholder n ++ " = " ++ v.toJson.compact

/-- The comments for some values, their placeholders numbered from `n` on. -/
def valueCommentsFrom (d : Dialect) (n : Nat) : List Value → List String
  | [] => []
  | v :: vs => valueComment d n v :: valueCommentsFrom d (n + 1) vs

namespace CompiledQuery

/-- The comments for the values of a query, in order. -/
def comments (c : CompiledQuery) : List String :=
  valueCommentsFrom c.dialect 1 c.params

/-- The SQL of a query and the comments for its values, each with a line break behind it. -/
def listing (c : CompiledQuery) : String :=
  String.join ((c.sql :: c.comments).map (· ++ "\n"))

end CompiledQuery

/-! ## Connectors

A connector runs the SQL of one dialect, and refuses a query that is compiled for another.
-/

/-- A query in another dialect than that of the connector. -/
structure DialectMismatch where
  /-- The dialect that the connector runs. -/
  connector : Dialect
  /-- The dialect of the query. -/
  query : Dialect
  deriving DecidableEq, Repr

/-- The message of a mismatch. -/
def DialectMismatch.message (m : DialectMismatch) : String :=
  "Connector runs " ++ m.connector.name ++ " SQL but the query was compiled for " ++ m.query.name

/-- Checks that a query is in the dialect of a connector. -/
def CompiledQuery.checkDialect (connector : Dialect) (c : CompiledQuery) :
    Except DialectMismatch Unit :=
  if c.dialect = connector then .ok () else .error ⟨connector, c.dialect⟩

end MetricLayer
