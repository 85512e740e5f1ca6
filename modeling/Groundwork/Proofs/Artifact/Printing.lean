import Groundwork.Artifact.Generation
import Groundwork.Proofs.Files.Keeping
import Groundwork.Proofs.Template.Model

/-!
# Printed models

`Request.modelLines` prints the model of a request line by line, without a template. What the
template makes in the scope of the request is the same (`Request.renderAll_modelNodes`): each part
of the template is rendered by itself, a loop item by item, and the parts are put together. So the
model is generated for every request, and its lines are those of the printer
(`Request.generate_model`).
-/

namespace Groundwork

open Template (Node Value Scope)

/-! ## The printer -/

/-- The line that declares the column of a field. -/
def Field.columnLine (field : Field) : String :=
  String.join ["    ", field.name, " = Column(", field.type.columnType, ", nullable=",
    if field.modifiers.nullable then "True" else "False",
    if field.modifiers.unique then ", unique=True" else "",
    if field.modifiers.index then ", index=True" else "",
    field.defaultExpression.elim "" (", default=" ++ ·), ")"]

/-- The line that declares the column with the foreign key of a relationship. -/
def Relationship.foreignKeyLine (r : Relationship) : String :=
  String.join ["    ", r.foreignKey, " = Column(Integer, ForeignKey('", r.targetTable, ".id'))"]

/-- The line that declares a relationship. -/
def Relationship.attributeLine (r : Relationship) : String :=
  String.join ["    ", r.name, " = relationship('", r.target, "'",
    if r.cardinality = .one then ", uselist=False" else ", lazy='select'", ")"]

namespace Request

/-- The lines that import what the generated code uses of dates: none or one. -/
def dateLines (request : Request) : List String :=
  match request.needsDate, request.needsDateTime with
  | true, true => ["from datetime import date, datetime"]
  | false, true => ["from datetime import datetime"]
  | true, false => ["from datetime import date"]
  | false, false => []

/-- The lines of the model of a request. -/
def modelLines (request : Request) : List String :=
  ["from sqlalchemy import " ++ String.intercalate ", " request.imports]
    ++ (if !request.relationships.isEmpty then ["from sqlalchemy.orm import relationship"] else [])
    ++ request.dateLines
    ++ ["from .base import Base", "", "", "class " ++ request.entity.typeName ++ "(Base):",
      "    __tablename__ = '" ++ request.entity.tableName ++ "'", "",
      "    id = Column(Integer, primary_key=True)"]
    ++ request.fields.map Field.columnLine
    ++ (request.relationships.filter (·.cardinality == .one)).map Relationship.foreignKeyLine
    ++ (if request.timestamps then
      ["    created_at = Column(DateTime, default=datetime.utcnow)",
        "    updated_at = Column(DateTime, default=datetime.utcnow, onupdate=datetime.utcnow)"]
      else [])
    ++ (if !request.relationships.isEmpty then
      "" :: request.relationships.map Relationship.attributeLine
      else [])
    ++ ["", "    def __repr__(self):",
      "        return f'<" ++ request.entity.typeName ++ " \x7bself.id\x7d>'"]

/-- The lines that every model has after its imports and before its columns. -/
def headLines (request : Request) : List String :=
  ["from .base import Base", "", "", "class " ++ request.entity.typeName ++ "(Base):",
    "    __tablename__ = '" ++ request.entity.tableName ++ "'", "",
    "    id = Column(Integer, primary_key=True)"]

/-- The lines that declare the times of creation and change. -/
def timestampLines : List String :=
  ["    created_at = Column(DateTime, default=datetime.utcnow)",
    "    updated_at = Column(DateTime, default=datetime.utcnow, onupdate=datetime.utcnow)"]

/-- The lines that every model ends with. -/
def tailLines (request : Request) : List String :=
  ["", "    def __repr__(self):",
    "        return f'<" ++ request.entity.typeName ++ " \x7bself.id\x7d>'"]

/-- The kinds of lines that a model has. -/
theorem mem_modelLines {request : Request} {line : String} :
    line ∈ request.modelLines ↔
      line = "from sqlalchemy import " ++ String.intercalate ", " request.imports ∨
      request.relationships ≠ [] ∧ line = "from sqlalchemy.orm import relationship" ∨
      line ∈ request.dateLines ∨ line ∈ request.headLines ∨
      (∃ field ∈ request.fields, line = field.columnLine) ∨
      (∃ r ∈ request.relationships, r.cardinality = .one ∧ line = r.foreignKeyLine) ∨
      request.timestamps = true ∧ line ∈ timestampLines ∨
      request.relationships ≠ [] ∧
        (line = "" ∨ ∃ r ∈ request.relationships, line = r.attributeLine) ∨
      line ∈ request.tailLines := by
  simp only [modelLines, headLines, timestampLines, tailLines, List.mem_append, List.mem_map,
    List.mem_filter, List.mem_ite_nil_right, List.mem_cons, List.not_mem_nil, or_false,
    Bool.not_eq_true', List.isEmpty_eq_false_iff, beq_iff_eq, or_assoc, and_assoc, ne_eq,
    @eq_comm _ line]

/-- A model that is to have the columns for the times of creation and change declares them. -/
theorem timestampLines_infix {request : Request} (h : request.timestamps = true) :
    timestampLines <:+: request.modelLines := by
  rw [modelLines, if_pos h]
  exact ⟨_, _, (List.append_assoc ..).symm⟩

end Request

/-! ## Rendering -/

section Values

open Template

variable {scope : Scope} {e : Expr} {b : Bool} {v w : Value} {o : Option String}
  {name key s t : String}

theorem value_member_head (h : v.get key = .ok w) :
    (Expr.member (.name name) key).value ((name, v) :: scope) = .ok w := by
  simpa [Expr.value, List.lookup_cons, bind, Except.bind] using h

theorem value_choice_text (h : e.value scope = .ok (.boolean b)) :
    (Expr.choice e (.literal (.text s)) (.literal (.text t))).value scope =
      .ok (.text (if b then s else t)) := by
  cases b <;> simp [Expr.value, h, bind, Except.bind, Value.holds, Value.defined, Except.map,
    Value.isTrue]

theorem value_equal_text (h : e.value scope = .ok (.text name)) :
    (Expr.equal e (.literal (.text s))).value scope = .ok (.boolean (name == s)) := by
  simp [Expr.value, h, bind, Except.bind, Value.equal, pure, Except.pure]

theorem value_and {b' : Bool} {f : Expr} (he : e.value scope = .ok (.boolean b))
    (hf : f.value scope = .ok (.boolean b')) :
    (Expr.and e f).value scope = .ok (.boolean (b && b')) := by
  cases b <;> simp [Expr.value, he, hf, bind, Except.bind, Value.holds, Value.defined, Except.map,
    Value.isTrue, pure, Except.pure]

theorem value_join {xs : List String} (h : e.value scope = .ok (.list (xs.map Value.text))) :
    (Expr.filteredWith e "join" (.literal (.text s))).value scope =
      .ok (.text (String.intercalate s xs)) := by
  have hxs : (xs.map Value.text).map Value.printed = xs := by
    rw [List.map_map]
    exact List.map_id xs
  simp [Expr.value, h, bind, Except.bind, Value.filter, Value.join, Value.items?, hxs]

/-- An optional text is there if it is not the value that stands for nothing. -/
theorem value_not_none (h : e.value scope = .ok ((o.map Value.text).getD .nothing)) :
    (Expr.not (.passes e "none")).value scope = .ok (.boolean o.isSome) := by
  cases o <;> simp [Expr.value, h, bind, Except.bind, Value.passes, Value.holds, Value.defined,
    Except.map, Value.isTrue, pure, Except.pure]

end Values

/-- Rendering a template of the library. -/
theorem TemplateSource.run_library {name source content : String} {scope : Scope}
    (hsource : Template.Library.source? name = some source)
    (hrender : Template.render source scope = .ok content) (w : Workspace) :
    (TemplateSource.library.render name scope : Action (StateM Workspace) String).run w =
      (.ok content, w) := by
  have hload : (TemplateSource.library.load name :
      StateM Workspace (Except FileError (Option String))) w = (.ok (some source), w) := by
    rw [← hsource]
    rfl
  rw [TemplateSource.render, Workspace.andThen_of_ok (Workspace.run_step _ _), hload]
  simp only [hrender, Workspace.run_ok]

namespace Request

open Template Template.Node

open Template.Library (ofLines)

variable (scope : Scope) (field : Field) (r : Relationship)

theorem get_fieldValue :
    (fieldValue field).get "name" = .ok (.text field.name) ∧
      (fieldValue field).get "column_type" = .ok (.text field.type.columnType) ∧
      (fieldValue field).get "nullable" = .ok (.boolean field.modifiers.nullable) ∧
      (fieldValue field).get "unique" = .ok (.boolean field.modifiers.unique) ∧
      (fieldValue field).get "index" = .ok (.boolean field.modifiers.index) ∧
      (fieldValue field).get "default" =
        .ok ((field.defaultExpression.map Value.text).getD .nothing) := by
  simp [fieldValue, Value.get, Value.defined, Value.member, Except.map, List.lookup_cons]

theorem get_relationshipValue :
    (relationshipValue r).get "name" = .ok (.text r.name) ∧
      (relationshipValue r).get "target" = .ok (.text r.target) ∧
      (relationshipValue r).get "cardinality" = .ok (.text r.cardinality.name) ∧
      (relationshipValue r).get "target_table" = .ok (.text r.targetTable) ∧
      (relationshipValue r).get "foreign_key" = .ok (.text r.foreignKey) := by
  simp [relationshipValue, Value.get, Value.defined, Value.member, Except.map, List.lookup_cons]

theorem renderAll_fieldNodes :
    renderAll (("field", fieldValue field) :: scope) Library.fieldNodes =
      .ok (field.columnLine ++ "\n") := by
  obtain ⟨hname, htype, hnullable, hunique, hindex, hdefault⟩ := get_fieldValue field
  have hprint : (field.defaultExpression.map Value.text).getD .nothing ≠ .undefined := by
    cases field.defaultExpression <;> nofun
  refine (renderAll_cons render_text <|
    renderAll_cons (render_print (value_member_head hname) nofun) <|
    renderAll_cons render_text <|
    renderAll_cons (render_print (value_member_head htype) nofun) <|
    renderAll_cons render_text <|
    renderAll_cons (render_print (value_choice_text (value_member_head hnullable)) nofun) <|
    renderAll_cons (render_choose (value_member_head hunique) nofun
      (renderAll_singleton render_text) renderAll_nil) <|
    renderAll_cons (render_choose (value_member_head hindex) nofun
      (renderAll_singleton render_text) renderAll_nil) <|
    renderAll_cons (render_choose (value_not_none (value_member_head hdefault)) nofun
      (renderAll_cons render_text <|
        renderAll_singleton (render_print (value_member_head hdefault) hprint)) renderAll_nil) <|
    renderAll_singleton render_text).trans ?_
  refine congrArg Except.ok ?_
  simp only [Field.columnLine, String.join_cons, String.join_nil, Value.printed_text,
    Value.isTrue_boolean, String.append_assoc]
  cases field.defaultExpression <;> rfl

theorem renderAll_foreignKeyNodes :
    renderAll (("rel", relationshipValue r) :: scope) Library.foreignKeyNodes =
      .ok (if r.cardinality == .one then r.foreignKeyLine ++ "\n" else "") := by
  obtain ⟨-, -, hcardinality, htable, hkey⟩ := get_relationshipValue r
  refine (renderAll_singleton <|
    render_choose (value_equal_text (value_member_head hcardinality)) nofun
      (renderAll_cons render_text <|
        renderAll_cons (render_print (value_member_head hkey) nofun) <|
        renderAll_cons render_text <|
        renderAll_cons (render_print (value_member_head htable) nofun) <|
        renderAll_singleton render_text) renderAll_nil).trans ?_
  refine congrArg Except.ok ?_
  simp only [Relationship.foreignKeyLine, String.join_cons, String.join_nil, Value.printed_text,
    Value.isTrue_boolean, String.append_assoc]
  cases r.cardinality <;> rfl

theorem renderAll_relationshipNodes :
    renderAll (("rel", relationshipValue r) :: scope) Library.relationshipNodes =
      .ok (r.attributeLine ++ "\n") := by
  obtain ⟨hname, htarget, hcardinality, -, -⟩ := get_relationshipValue r
  refine (renderAll_cons render_text <|
    renderAll_cons (render_print (value_member_head hname) nofun) <|
    renderAll_cons render_text <|
    renderAll_cons (render_print (value_member_head htarget) nofun) <|
    renderAll_cons render_text <|
    renderAll_cons (render_choose (value_equal_text (value_member_head hcardinality)) nofun
      (renderAll_singleton render_text) (renderAll_singleton render_text)) <|
    renderAll_singleton render_text).trans ?_
  refine congrArg Except.ok ?_
  simp only [Relationship.attributeLine, String.join_cons, String.join_nil, Value.printed_text,
    Value.isTrue_boolean, String.append_assoc]
  cases r.cardinality <;> rfl

variable (request : Request)

theorem value_scope :
    (Expr.name "model_name").value request.scope = .ok (.text request.entity.typeName) ∧
      (Expr.name "table_name").value request.scope = .ok (.text request.entity.tableName) ∧
      (Expr.name "fields").value request.scope = .ok (.list (request.fields.map fieldValue)) ∧
      (Expr.name "relationships").value request.scope =
        .ok (.list (request.relationships.map relationshipValue)) ∧
      (Expr.name "timestamps").value request.scope = .ok (.boolean request.timestamps) ∧
      (Expr.name "imports").value request.scope = .ok (.list (request.imports.map Value.text)) ∧
      (Expr.name "needs_datetime").value request.scope = .ok (.boolean request.needsDateTime) ∧
      (Expr.name "needs_date").value request.scope = .ok (.boolean request.needsDate) := by
  simp [Expr.value, scope, List.lookup_cons]

theorem render_dateNode :
    render request.scope Library.dateNode = .ok (Library.ofLines request.dateLines) := by
  obtain ⟨-, -, -, -, -, -, hdateTime, hdate⟩ := value_scope request
  refine (render_choose (value_and hdate hdateTime) nofun (renderAll_singleton render_text) <|
    renderAll_singleton <| render_choose hdateTime nofun (renderAll_singleton render_text) <|
    renderAll_singleton <| render_choose hdate nofun (renderAll_singleton render_text)
      renderAll_nil).trans ?_
  refine congrArg Except.ok ?_
  simp only [dateLines, Value.isTrue_boolean]
  cases request.needsDate <;> cases request.needsDateTime <;> rfl

/-- Rendered in the scope of a request, the template of models makes the lines that the printer
makes. -/
theorem renderAll_modelNodes :
    renderAll request.scope Library.modelNodes = .ok (Library.ofLines request.modelLines) := by
  obtain ⟨hname, htable, hfields, hrelationships, htimestamps, himports, -, -⟩ :=
    value_scope request
  refine (renderAll_cons render_text <|
    renderAll_cons (render_print (value_join himports) nofun) <|
    renderAll_cons render_text <|
    renderAll_cons (render_choose hrelationships nofun
      (renderAll_singleton render_text) renderAll_nil) <|
    renderAll_cons (render_dateNode request) <|
    renderAll_cons render_text <|
    renderAll_cons (render_print hname nofun) <|
    renderAll_cons render_text <|
    renderAll_cons (render_print htable nofun) <|
    renderAll_cons render_text <|
    renderAll_cons (render_each hfields (renderAll_fieldNodes _)) <|
    renderAll_cons (render_each hrelationships (renderAll_foreignKeyNodes _)) <|
    renderAll_cons (render_choose htimestamps nofun
      (renderAll_singleton render_text) renderAll_nil) <|
    renderAll_cons (render_choose hrelationships nofun
      (renderAll_cons render_text <|
        renderAll_singleton (render_each hrelationships (renderAll_relationshipNodes _)))
      renderAll_nil) <|
    renderAll_cons render_text <|
    renderAll_cons (render_print hname nofun) <|
    renderAll_singleton render_text).trans ?_
  refine congrArg Except.ok ?_
  -- the texts of the template, line by line
  have hrelationship : "from sqlalchemy.orm import relationship\n" =
      ofLines ["from sqlalchemy.orm import relationship"] := by simp
  have hbase : "from .base import Base\n\n\nclass " =
      ofLines ["from .base import Base", "", ""] ++ "class " := by simp
  have hclass : "(Base):\n    __tablename__ = '" =
      "(Base):" ++ "\n" ++ "    __tablename__ = '" := by simp
  have hid : "'\n\n    id = Column(Integer, primary_key=True)\n" =
      "'" ++ "\n" ++ ofLines ["", "    id = Column(Integer, primary_key=True)"] := by simp
  have htimes : "    created_at = Column(DateTime, default=datetime.utcnow)\n" ++
      "    updated_at = Column(DateTime, default=datetime.utcnow, onupdate=datetime.utcnow)\n" =
        ofLines ["    created_at = Column(DateTime, default=datetime.utcnow)",
          "    updated_at = Column(DateTime, default=datetime.utcnow, onupdate=datetime.utcnow)"]
    := by simp
  have hrepr : "\n    def __repr__(self):\n        return f'<" =
      ofLines ["", "    def __repr__(self):"] ++ "        return f'<" := by simp
  have hself : " \x7bself.id\x7d>'\n" = " \x7bself.id\x7d>'" ++ "\n" := by simp
  rw [hrelationship, hbase, hclass, hid, htimes, hrepr, hself]
  have hrelated : (Value.list (request.relationships.map relationshipValue)).isTrue =
      !request.relationships.isEmpty := by
    cases request.relationships <;> rfl
  simp only [modelLines, Library.ofLines_append, Library.ofLines_cons, Library.ofLines_nil,
    Library.ofLines_ite,
    Library.join_map_line, Library.join_map_line_filter, Value.printed_text, Value.isTrue_boolean,
    hrelated, String.append_assoc, String.append_empty, String.empty_append]

/-- The template of models prints what the printer prints. -/
theorem render_model :
    Template.render (ofLines Library.model) request.scope = .ok (ofLines request.modelLines) := by
  rw [Template.render, ofSource?, Library.ofSource?_model]
  simp only [Option.bind_eq_bind, Option.bind_some, Library.ofChunks?_model]
  exact renderAll_modelNodes request

/-! ## Generating -/

/-- The artifact of a kind for a request, with a text. -/
def artifact (request : Request) (kind : ArtifactKind) (content : String) : Artifact where
  path := kind.path request.entity
  content := content
  aggregator := kind.aggregator
  registration := kind.registration request.entity

/-- What the library's template of a kind makes is the text of the artifact that is generated. -/
theorem run_generate {kind : ArtifactKind} {text content : String}
    (hsource : Library.source? kind.templateName = some text)
    (hrender : Template.render text request.scope = .ok content) (w : Workspace) :
    ∃ w', (request.generate kind .library : Action (StateM Workspace) Artifact).run w =
      (.ok (request.artifact kind content), w') ∧ w'.files = w.files := by
  rw [generate, Workspace.andThen_of_ok (Workspace.run_note _ _ _ _),
    Workspace.andThen_of_ok (TemplateSource.run_library hsource hrender _), Workspace.run_ok]
  exact ⟨_, rfl, rfl⟩

theorem source?_model :
    Library.source? ArtifactKind.model.templateName = some (ofLines Library.model) := by
  simp [ArtifactKind.templateName, Library.source?, Library.templates]

/-- **The generated model is the printed one.** Whatever the request, the model is generated from
the template of the library without a problem, its text consists of the lines of the printer, each
ended by a line feed, and no file is touched. -/
theorem generate_model (w : Workspace) :
    ∃ w', (request.generate .model .library : Action (StateM Workspace) Artifact).run w =
        (.ok { path := ArtifactKind.path .model request.entity
               content := ofLines request.modelLines
               aggregator := ArtifactKind.aggregator .model
               registration := ArtifactKind.registration .model request.entity }, w') ∧
      w'.files = w.files :=
  request.run_generate source?_model (render_model request) w

end Request

end Groundwork
