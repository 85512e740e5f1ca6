import Groundwork.Text.Replace

/-!
# Message catalogs

What the user is told, in each of the languages of the interface. A message is looked up under its
English text, so that the English catalog changes nothing and a text that a catalog lacks passes
through. Placeholders are names in braces; `fill` puts the arguments for them one after the other.
-/

namespace Groundwork

/-- A language of the interface. -/
inductive Language
  /-- English. -/
  | english
  /-- Brazilian Portuguese. -/
  | portuguese
  deriving DecidableEq, Repr

namespace Catalog

/-- A placeholder: a name in braces. -/
def placeholder (name : String) : String := "\x7b" ++ name ++ "\x7d"

/-! ## The messages -/

/-- What is told while an artifact is being generated. -/
def generating : String := "Generating \x7bkind\x7d \x7bname\x7d..."

/-- What is told once an artifact has been generated. -/
def created : String := "Created \x7bkind\x7d \x7bname\x7d in \x7bpath\x7d"

/-- What is told when the aggregator has gained a line. -/
def registered : String := "Registered in \x7baggregator\x7d"

/-- What is told when the aggregator had the line before. -/
def alreadyRegistered : String := "Already registered in \x7baggregator\x7d"

/-- What is told while a project is being created. -/
def creatingProject : String := "Creating project \x7bname\x7d..."

/-- What is told once a project has been created. -/
def createdProject : String := "Created project \x7bname\x7d in \x7bpath\x7d"

/-- The heading of what to do after a project has been created. -/
def nextSteps : String := "Next steps:"

/-- The Portuguese texts by their English ones. -/
def portugueseTexts : List (String × String) :=
  [("model", "modelo"),
    ("controller", "controlador"),
    (generating, "Gerando \x7bkind\x7d \x7bname\x7d..."),
    (created, "\x7bkind\x7d \x7bname\x7d criado em \x7bpath\x7d"),
    (registered, "Registrado em \x7baggregator\x7d"),
    (alreadyRegistered, "Já registrado em \x7baggregator\x7d"),
    (creatingProject, "Criando projeto \x7bname\x7d..."),
    (createdProject, "Projeto \x7bname\x7d criado em \x7bpath\x7d"),
    (nextSteps, "Próximos passos:"),
    ("Not a project", "Não é um projeto"),
    ("Invalid input", "Entrada inválida"),
    ("Already exists", "Já existe"),
    ("Template not found", "Template não encontrado"),
    ("Template error", "Erro no template"),
    ("I/O error", "Erro de E/S"),
    ("Configuration error", "Erro de configuração")]

/-! ## Looking up and filling in -/

/-- The text for `key` in a language. -/
def lookup (language : Language) (key : String) : String :=
  match language with
  | .english => key
  | .portuguese => (portugueseTexts.lookup key).getD key

/-- A text with its placeholders replaced by the arguments, in the order of the arguments: a
placeholder that an argument brings in is replaced by a later argument of that name. -/
def fill (text : String) (arguments : List (String × String)) : String :=
  arguments.foldl (fun text (name, value) => Text.replace (placeholder name) value text) text

/-- The text for `key` in a language, filled in. -/
def text (language : Language) (key : String) (arguments : List (String × String)) : String :=
  fill (lookup language key) arguments

end Catalog

end Groundwork
