import MetricLayer.Cli.Command

/-!
# Pages of help
-/

namespace MetricLayer.Cli

/-- The name and the number of the program. -/
def versionText : String := "classmetrics 0.1.0\n"

/-- The lines of a page about a command: what it does, how it is called, and further parts. -/
def pageLines (about usage : String) (parts : List (List String)) : List String :=
  about :: "" :: ("Usage: classmetrics " ++ usage) :: parts.flatMap ("" :: ·)

/-- The part about the file of a request. -/
def fileLines : List String :=
  ["Arguments:", "  <FILE>  Path to the request file, or '-' for stdin"]

/-- The lines of a page. -/
def HelpPage.lines : HelpPage → List String
  | overview =>
    pageLines "classmetrics - compile declarative analytics requests to SQL" "<COMMAND>"
      [["Commands:",
        "  compile  Compile a JSON request to SQL",
        "  schema   Print the measure and dimension catalogue as JSON",
        "  run      Compile a request for SQLite, execute it, and print the rows as JSON",
        "  help     Print this message or the help of the given subcommand(s)"],
      ["Options:",
        "  -h, --help     Print help",
        "  -V, --version  Print version"]]
  | compile false =>
    pageLines "Compile a JSON request to SQL" "compile [OPTIONS] <FILE>"
      [fileLines,
      ["Options:",
        "  -d, --dialect <DIALECT>  SQL dialect to generate (defaults to the configured dialect) " ++
          "[possible",
        "                           values: postgres, duckdb, sqlite]",
        "  -f, --format <FORMAT>    Output format [default: sql] [possible values: sql, json]",
        "  -h, --help               Print help (see more with '--help')"]]
  | compile true =>
    pageLines "Compile a JSON request to SQL" "compile [OPTIONS] <FILE>"
      [["Arguments:",
        "  <FILE>",
        "          Path to the request file, or '-' for stdin"],
      ["Options:",
        "  -d, --dialect <DIALECT>",
        "          SQL dialect to generate (defaults to the configured dialect)",
        "          ",
        "          [possible values: postgres, duckdb, sqlite]"],
      ["  -f, --format <FORMAT>",
        "          Output format",
        "          ",
        "          [default: sql]",
        "",
        "          Possible values:",
        "          - sql:  SQL text, with bound parameters listed as a trailing comment",
        "          - json: The full compiled query as JSON"],
      ["  -h, --help",
        "          Print help (see a summary with '-h')"]]
  | schema =>
    pageLines "Print the measure and dimension catalogue as JSON" "schema"
      [["Options:", "  -h, --help  Print help"]]
  | run =>
    pageLines "Compile a request for SQLite, execute it, and print the rows as JSON"
      "run [OPTIONS] <FILE>"
      [fileLines,
      ["Options:",
        "      --database <DATABASE>  SQLite database file (defaults to [storage].database)",
        "  -h, --help                 Print help"]]
  | help =>
    pageLines "Print this message or the help of the given subcommand(s)" "help [COMMAND]..."
      [["Arguments:", "  [COMMAND]...  Print help for the subcommand(s)"]]

/-- The text of a page. -/
def HelpPage.text (page : HelpPage) : String :=
  String.join (page.lines.map (· ++ "\n"))

end MetricLayer.Cli
