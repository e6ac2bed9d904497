/-! The texts of the command line. -/
namespace Initialism.CommandLine

def version : String := "visie 0.1.0\n"

def helpLines : List String := [
  "Visie is a simple initialism enumerator. It helps you name things with acronyms.",
  "",
  "Usage: visie [OPTIONS] <CONSTRAINT>...",
  "",
  "Arguments:",
  "  <CONSTRAINT>...  A constraint (see below)",
  "",
  "Options:",
  "  -u, --use-variants             Use phonetic variants of the dictionary entries",
  "  -m, --min-length <min-length>  Minimum acronym length (default: 4)",
  "  -d, --dict <dict>              Path to the dictionary file (default: /usr/share/dict/words)",
  "  -c, --config <config>          TOML configuration file layered over the defaults and the user's visie.toml",
  "  -f, --format <format>          Output format [default: text] [possible values: text, json]",
  "  -h, --help                     Print help",
  "  -V, --version                  Print version",
  "",
  "By default, visie will find initialisms and acronyms",
  "that contain any subset of the provided words, in any order:",
  "",
  "  $ visie pleasing orange home noise expeller",
  "  HONE: home orange noise expeller",
  "  HOPE: home orange pleasing expeller",
  "  ...",
  "",
  "Wrapping words in angle brackets \"<...>\"",
  "means that they must all occur, in order:",
  "",
  "  $ visie 'pleasing orange home <noise expeller>'",
  "  HONE: home orange noise expeller",
  "  PHONE: pleasing home orange noise expeller",
  "  PONE: pleasing orange noise expeller",
  "",
  "Words in square brackets \"[...]\" must all occur, but can be in any order:",
  "",
  "  $ visie '[pleasing orange home <noise expeller>]'",
  "  PHONE: pleasing home orange noise expeller",
  "",
  "Parenthesis \"(...)\" means exactly one of the contained elements will be used:",
  "",
  "  $ visie --min-length 3 'pleasing home (orange noise expeller)'",
  "  HOP: home orange pleasing",
  "  ...",
  "",
  "Elements in curly braces \"\x7b...\x7d\" can occur in any order and any quantity:",
  "",
  "  $ visie 'pleasing home (\x7borange noise\x7d expeller)'",
  "  PHON: pleasing home orange noise",
  "",
  "Elements followed by a question mark are optional:",
  "",
  "  $ visie '<diaphone is? a? [pleasing orange home noise expeller]>'",
  "  DIAPHONE: diaphone is a pleasing home orange noise expeller",
  "",
  "Finally, you can create recursive acronyms by using a period as a wildcard:",
  "",
  "  $ visie '<. is? a? [pleasing orange home noise expeller]>'",
  "  DIAPHONE: d is a pleasing home orange noise expeller",
  "  WANHOPE: w a noise home orange pleasing expeller"]

def help : String := String.join (helpLines.map (· ++ "\n"))

end Initialism.CommandLine
