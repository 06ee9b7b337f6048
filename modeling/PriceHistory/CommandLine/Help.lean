import PriceHistory.CommandLine

/-!
The help pages of the command line.
-/
namespace PriceHistory.Command

/-- The page about all commands. -/
def overview : List String :=
  ["Cached historical prices backed by IEX Cloud",
    "",
    "Usage: pricecache <COMMAND>",
    "",
    "Commands:",
    "  history  Historical prices for a symbol (served from cache where possible)",
    "  symbols  List all symbols known to the provider",
    "  last     Last traded price for one or more symbols",
    "  stats    Show how many points are cached for a symbol",
    "  help     Print this message or the help of the given subcommand(s)",
    "",
    "Options:",
    "  -h, --help  Print help"]

/-- The page about a topic. -/
def Topic.page : Topic → List String
  | history =>
    ["Historical prices for a symbol (served from cache where possible)",
      "",
      "Usage: pricecache history [OPTIONS] <SYMBOL>",
      "",
      "Arguments:",
      "  <SYMBOL>  Ticker symbol",
      "",
      "Options:",
      "      --range <RANGE>  Range token (1d, 5d, 1m, 3m, 6m, 1y, 2y, 5y)",
      "      --date <DATE>    Exact date (YYYYMMDD); returns minute bars for that day",
      "  -h, --help           Print help"]
  | symbols =>
    ["List all symbols known to the provider",
      "",
      "Usage: pricecache symbols",
      "",
      "Options:",
      "  -h, --help  Print help"]
  | last =>
    ["Last traded price for one or more symbols",
      "",
      "Usage: pricecache last [SYMBOLS]...",
      "",
      "Arguments:",
      "  [SYMBOLS]...  ",
      "",
      "Options:",
      "  -h, --help  Print help"]
  | stats =>
    ["Show how many points are cached for a symbol",
      "",
      "Usage: pricecache stats <SYMBOL>",
      "",
      "Arguments:",
      "  <SYMBOL>  ",
      "",
      "Options:",
      "  -h, --help  Print help"]
  | help =>
    ["Print this message or the help of the given subcommand(s)",
      "",
      "Usage: pricecache help [COMMAND]...",
      "",
      "Arguments:",
      "  [COMMAND]...  Print help for the subcommand(s)"]

/-- The lines of help on a topic, or on all. -/
def helpPage (topic : Option Topic) : List String :=
  (topic.map Topic.page).getD overview

end PriceHistory.Command
