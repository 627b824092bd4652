import CrateGuard.CommandLine.Screen

/-! The usage and the help of each screen, laid out for eighty columns. -/

namespace CrateGuard.CommandLine

def joinedLines (lines : List String) : String :=
  "\n".intercalate lines

namespace Screen

def usageLines : Screen → List String
  | .main => ["usage: dependency-gate [-h] [--root ROOT] [-v] \x7baudit,watch\x7d ..."]
  | .command .audit => [
    "usage: dependency-gate audit [-h] [--policy POLICY] [--audit-json AUDIT_JSON]",
    "                             [--today TODAY]"]
  | .command .watch => [
    "usage: dependency-gate watch [-h] [--watchlist WATCHLIST]",
    "                             [--metadata-json METADATA_JSON] [--no-fail]",
    "                             [--registry-url REGISTRY_URL] [--timeout TIMEOUT]",
    "                             [--summary-path SUMMARY_PATH]",
    "                             [--output-dir OUTPUT_DIR]"]

def detailLines : Screen → List String
  | .main => [
    "Enforce advisory policy and dependency freshness for a Cargo workspace",
    "",
    "positional arguments:",
    "  \x7baudit,watch\x7d",
    "    audit        Fail on vulnerabilities and unreviewed or expired advisory",
    "                 exceptions",
    "    watch        Compare watched crates against the latest crates.io releases",
    "",
    "options:",
    "  -h, --help     show this help message and exit",
    "  --root ROOT    Workspace root that cargo runs in and config paths resolve",
    "                 against. Default: .",
    "  -v, --verbose  Enable debug logging"]
  | .command .audit => [
    "options:",
    "  -h, --help            show this help message and exit",
    "  --policy POLICY       Allowlist policy JSON. Default:",
    "                        <root>/security/rustsec-policy.json",
    "  --audit-json AUDIT_JSON",
    "                        Read a saved `cargo audit --json` report instead of",
    "                        running cargo",
    "  --today TODAY         Evaluation date (YYYY-MM-DD). Default: today (UTC)"]
  | .command .watch => [
    "options:",
    "  -h, --help            show this help message and exit",
    "  --watchlist WATCHLIST",
    "                        Watch-list JSON. Default: <root>/security/dependency-",
    "                        watch.json",
    "  --metadata-json METADATA_JSON",
    "                        Read saved `cargo metadata --format-version 1` output",
    "                        instead of running cargo",
    "  --no-fail             Advisory mode: report outdated or missing crates",
    "                        without failing",
    "  --registry-url REGISTRY_URL",
    "                        Crates API endpoint. Default:",
    "                        https://crates.io/api/v1/crates",
    "  --timeout TIMEOUT     Per-request registry timeout in seconds. Default: 30",
    "  --summary-path SUMMARY_PATH",
    "                        Append a markdown summary here. Default:",
    "                        $GITHUB_STEP_SUMMARY",
    "  --output-dir OUTPUT_DIR",
    "                        Also write the outcome table as CSV into this",
    "                        directory"]

def usage (screen : Screen) : String :=
  joinedLines screen.usageLines

def help (screen : Screen) : String :=
  joinedLines (screen.usageLines ++ "" :: screen.detailLines)

end Screen

end CrateGuard.CommandLine
