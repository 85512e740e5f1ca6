import Groundwork.Proofs.Template.Pieces

/-!
# The templates of a new project

In the templates of the files of a new project nothing but the name of the project is filled in.
Some are not changed at all, having no tag in them (`render_untagged`), and the others are lines of
pieces (`render_pieces`).
-/

namespace Groundwork.Template

variable {scope : Scope}

/-! ## Templates without tags -/

theorem Chunk.firstTag_of_not_mem {cs : List Char} (h : '\x7b' ∉ cs) :
    firstTag cs = (cs, none) := by
  induction cs with
  | nil => rfl
  | cons c cs ih =>
    rw [List.mem_cons, not_or] at h
    cases cs with
    | nil => rfl
    | cons d cs => simp [firstTag, Ne.symm h.1, ih h.2]

/-- A template without tags is rendered as it is. -/
theorem render_untagged {source : String} (h : '\x7b' ∉ source.toList) :
    render source scope = .ok source := by
  have hchunks : Chunk.ofSource? source = some (Chunk.ofText source.toList) := by
    rw [Chunk.ofSource?, Chunk.cut]
    split
    · next lead hlead =>
      rw [Chunk.firstTag_of_not_mem h] at hlead
      rw [(Prod.mk.inj hlead).1]
    · next hlead =>
      rw [Chunk.firstTag_of_not_mem h] at hlead
      cases hlead
  rw [render, Node.ofSource?, hchunks, Chunk.ofText]
  by_cases hempty : source.toList = []
  · obtain rfl : source = "" := by simpa using hempty
    rfl
  · rw [if_neg (by simpa using hempty), String.ofList_toList]
    exact Node.renderAll_singleton Node.render_text

/-! ## Templates with names to fill in -/

/-- A template that consists of lines of pieces is rendered as these lines, with the names filled
in. -/
theorem render_pieces {source : String} {lines : List (List Piece)} {value : String → String}
    (hsource : Chunk.ofSource? source = some ((Piece.ofLines lines).map Piece.chunk))
    (hnames : ∀ word ∈ Piece.words (Piece.ofLines lines), Expr.IsName word)
    (hvalue : ∀ word ∈ Piece.words (Piece.ofLines lines),
      (Expr.name word).value scope = .ok (.text (value word))) :
    render source scope = .ok (Library.ofLines (Piece.lines value lines)) := by
  have hread : Node.ofChunks? ((Piece.ofLines lines).map Piece.chunk) =
      some ((Piece.ofLines lines).map Piece.node) := by
    rw [Node.ofChunks?, ← List.append_nil (List.map Piece.chunk _), Node.read_pieces hnames]
    rfl
  rw [render, Node.ofSource?, hsource]
  simp only [Option.bind_eq_bind, Option.bind_some, hread]
  rw [Node.renderAll_pieces hvalue, Piece.join_ofLines]

namespace Library

/-- The sources of the templates of a new project in which nothing is filled in. -/
def untagged : List (List String) :=
  [application, requirements, modelPackage, modelBase, controllerPackage]

theorem brace_not_mem_untagged {lines : List String} (h : lines ∈ untagged) :
    '\x7b' ∉ (ofLines lines).toList := by
  have hall : ∀ lines ∈ untagged, ∀ line ∈ lines, '\x7b' ∉ line.toList := by decide
  intro hm
  obtain hfeed | ⟨line, hl, hm⟩ := mem_ofLines hm
  · exact absurd hfeed (by decide)
  · exact hall lines h line hl hm

/-- The lines of the configuration of a project. -/
def configurationPieces : List (List Piece) :=
  [[.text "import os"], [], [], [.text "class Config:"],
    [.text "    SECRET_KEY = os.environ.get('SECRET_KEY', 'change-me')"],
    [.text "    SQLALCHEMY_DATABASE_URI = os.environ.get('DATABASE_URL', 'sqlite:///",
      .name "project_name_snake", .text ".sqlite3')"],
    [.text "    SQLALCHEMY_TRACK_MODIFICATIONS = False"]]

/-- The lines of the program that creates the tables of a project. -/
def initializationPieces : List (List Piece) :=
  [[.text "\"\"\"Create every table registered in models/__init__.py.\"\"\""],
    [.text "from app import app"], [.text "from models import db"], [],
    [.text "with app.app_context():"], [.text "    db.create_all()"],
    [.text "    print('Database for ", .name "project_name", .text " initialized.')"]]

/-- The lines of the package of the routes of a project. -/
def routePieces : List (List Piece) :=
  [[.text "def register_blueprints(app):"],
    [.text "    \"\"\"Register the blueprints of ", .name "project_name", .text ".\"\"\""]]

/-- The lines of the index page of a project. -/
def indexPieces : List (List Piece) :=
  [[.text "<!DOCTYPE html>"], [.text "<html lang=\"en\">"], [.text "<head>"],
    [.text "    <meta charset=\"utf-8\">"],
    [.text "    <title>", .name "project_name", .text "</title>"], [.text "</head>"],
    [.text "<body>"], [.text "    <h1>", .name "project_name", .text "</h1>"],
    [.text "    <p>Built with the Oryum stack.</p>"], [.text "</body>"], [.text "</html>"]]

/-- The sources of the templates in which a name is filled in, with the lines that they are. -/
def tagged : List (List String × List (List Piece)) :=
  [(configuration, configurationPieces), (initialization, initializationPieces),
    (routePackage, routePieces), (indexPage, indexPieces)]

theorem ofSource?_tagged {source : List String} {lines : List (List Piece)}
    (h : (source, lines) ∈ tagged) :
    Chunk.ofSource? (ofLines source) = some ((Piece.ofLines lines).map Piece.chunk) := by
  simp only [tagged, List.mem_cons, Prod.mk.injEq, List.not_mem_nil, or_false] at h
  obtain ⟨rfl, rfl⟩ | ⟨rfl, rfl⟩ | ⟨rfl, rfl⟩ | ⟨rfl, rfl⟩ := h
  all_goals
    simp only [Chunk.ofSource?, ofLines, configuration, initialization, routePackage, indexPage,
      String.toList_ofList, List.flatMap_cons, List.flatMap_nil]
    repeat rw [String.toList_ofList]
    decide +kernel

/-- The names that are filled in are those of the project. -/
theorem words_tagged {source : List String} {lines : List (List Piece)}
    (h : (source, lines) ∈ tagged) :
    ∀ word ∈ Piece.words (Piece.ofLines lines),
      word = "project_name" ∨ word = "project_name_snake" := by
  have hall : ∀ entry ∈ tagged, ∀ word ∈ entry.2.flatMap Piece.words,
      word = "project_name" ∨ word = "project_name_snake" := by decide
  rw [Piece.words_ofLines]
  exact hall _ h

end Library

end Groundwork.Template
