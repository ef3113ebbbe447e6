import RouteScript.CommandLine.Request

/-!
# The manual

What the program says about its command line.
-/

namespace RouteScript.CommandLine

def Part.programName : Part → Text
  | .program => "csimplegen"
  | .generate => "csimplegen generate"

def Part.usage : Part → Text
  | .program => "usage: csimplegen [-h] [-v] \x7bgenerate\x7d ...\n"
  | .generate =>
    "usage: csimplegen generate [-h] [-v] [--include-test] [--no-java] [--no-xml]\n" ++
    "                           [--includes INCLUDES] [--excludes EXCLUDES]\n" ++
    "                           [--output-dir OUTPUT_DIR]\n" ++
    "                           [--output-resource-dir OUTPUT_RESOURCE_DIR]\n" ++
    "                           [--resource-dir RESOURCE_DIR] [--dry-run]\n" ++
    "                           [--log-file LOG_FILE]\n" ++
    "                           [path]\n"

def Part.explanation : Part → Text
  | .program =>
    "\n" ++
    "Generate Java sources for csimple expressions found in Camel routes.\n" ++
    "\n" ++
    "positional arguments:\n" ++
    "  \x7bgenerate\x7d\n" ++
    "    generate     Compile csimple expressions into generated source files.\n" ++
    "\n" ++
    "options:\n" ++
    "  -h, --help     show this help message and exit\n" ++
    "  -v, --verbose  Increase log verbosity for troubleshooting.\n"
  | .generate =>
    "\n" ++
    "positional arguments:\n" ++
    "  path                  Path to the project root (defaults to current\n" ++
    "                        directory).\n" ++
    "\n" ++
    "options:\n" ++
    "  -h, --help            show this help message and exit\n" ++
    "  -v, --verbose         Increase log verbosity for troubleshooting.\n" ++
    "  --include-test        Also scan test sources.\n" ++
    "  --no-java             Skip Java route builder sources.\n" ++
    "  --no-xml              Skip XML route documents.\n" ++
    "  --includes INCLUDES   Comma separated wildcard or regex patterns of files to\n" ++
    "                        include.\n" ++
    "  --excludes EXCLUDES   Comma separated wildcard or regex patterns of files to\n" ++
    "                        exclude.\n" ++
    "  --output-dir OUTPUT_DIR\n" ++
    "                        Directory for generated source files.\n" ++
    "  --output-resource-dir OUTPUT_RESOURCE_DIR\n" ++
    "                        Directory for the generated csimple.properties\n" ++
    "                        resource.\n" ++
    "  --resource-dir RESOURCE_DIR\n" ++
    "                        Directory containing camel-csimple.properties.\n" ++
    "  --dry-run             Report generated files without writing them.\n" ++
    "  --log-file LOG_FILE   Also write log records to this file.\n"

def Part.help (part : Part) : Text := part.usage ++ part.explanation

def Part.complaint (part : Part) (fault : ArgumentFault) : Text :=
  part.usage ++ part.programName ++ ": error: " ++ fault.message ++ "\n"

end RouteScript.CommandLine
