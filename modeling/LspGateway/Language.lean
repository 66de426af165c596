import LspGateway.Path
import LspGateway.Text.Case

/-! # Language identifiers

The name under which a document's language is announced: known from the suffix
of its URI, else the first language its server was configured for.
-/

namespace LspGateway.Language
open LspGateway.Text

/-- File suffixes and the languages they announce. -/
def table : List (String × String) := [
  (".py", "python"), (".pyi", "python"),
  (".ts", "typescript"), (".tsx", "typescriptreact"), (".js", "javascript"),
  (".jsx", "javascriptreact"), (".mjs", "javascript"), (".cjs", "javascript"),
  (".mts", "typescript"), (".cts", "typescript"),
  (".go", "go"),
  (".rs", "rust"),
  (".java", "java"),
  (".c", "c"), (".cpp", "cpp"), (".cc", "cpp"), (".cxx", "cpp"), (".h", "c"), (".hpp", "cpp"),
  (".cs", "csharp"),
  (".rb", "ruby"),
  (".php", "php"),
  (".swift", "swift"),
  (".kt", "kotlin"), (".kts", "kotlin"),
  (".scala", "scala"),
  (".lua", "lua"),
  (".zig", "zig"),
  (".sh", "shellscript"), (".bash", "shellscript"),
  (".yaml", "yaml"), (".yml", "yaml"), (".json", "json"), (".toml", "toml"),
  (".html", "html"), (".css", "css"), (".vue", "vue"), (".svelte", "svelte"),
  (".md", "markdown")]

/-- The language of files with a suffix, its dot included. -/
def ofSuffix? (suffix : String) : Option String :=
  (table.find? (·.1 == lower suffix)).map (·.2)

/-- The language of a document handled by a server for the given languages. -/
def ofDocument (languages : List String) (uri : String) : String :=
  match ofSuffix? (Path.suffix uri) with
  | some language => language
  | none =>
    match languages with
    | [] => "plaintext"
    | first :: _ => lower first

end LspGateway.Language
