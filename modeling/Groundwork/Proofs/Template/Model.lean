import Groundwork.Proofs.Template.Reading
import Groundwork.Proofs.Template.Rendering

/-!
# The template of models as nodes

The source of the template of models is cut into the chunks `modelChunks` (`ofSource?_model`), and
these are read as the nodes `modelNodes` (`ofChunks?_model`). The bodies of its loops are read by
themselves, whatever the loop is that they are in.
-/

namespace Groundwork.Template.Library

/-! ## Chunks -/

/-- The chunks that choose the import of dates. -/
def dateChunks : List Chunk :=
  [.instruction [.word "if", .word "needs_date", .word "and", .word "needs_datetime"],
    .text "from datetime import date, datetime\n",
    .instruction [.word "elif", .word "needs_datetime"],
    .text "from datetime import datetime\n", .instruction [.word "elif", .word "needs_date"],
    .text "from datetime import date\n", .instruction [.word "endif"]]

/-- The chunks of the body of the loop over the fields. -/
def fieldChunks : List Chunk :=
  [.text "    ", .expression [.word "field", .dot, .word "name"], .text " = Column(",
    .expression [.word "field", .dot, .word "column_type"], .text ", nullable=",
    .expression [.text "True", .word "if", .word "field", .dot, .word "nullable", .word "else",
      .text "False"],
    .instruction [.word "if", .word "field", .dot, .word "unique"], .text ", unique=True",
    .instruction [.word "endif"], .instruction [.word "if", .word "field", .dot, .word "index"],
    .text ", index=True", .instruction [.word "endif"],
    .instruction [.word "if", .word "field", .dot, .word "default", .word "is", .word "not",
      .word "none"],
    .text ", default=", .expression [.word "field", .dot, .word "default"],
    .instruction [.word "endif"], .text ")\n"]

/-- The chunks of the body of the loop that makes foreign keys. -/
def foreignKeyChunks : List Chunk :=
  [.instruction [.word "if", .word "rel", .dot, .word "cardinality", .equal, .text "one"],
    .text "    ", .expression [.word "rel", .dot, .word "foreign_key"],
    .text " = Column(Integer, ForeignKey('", .expression [.word "rel", .dot, .word "target_table"],
    .text ".id'))\n", .instruction [.word "endif"]]

/-- The chunks of the body of the loop that makes relationships. -/
def relationshipChunks : List Chunk :=
  [.text "    ", .expression [.word "rel", .dot, .word "name"], .text " = relationship('",
    .expression [.word "rel", .dot, .word "target"], .text "'",
    .instruction [.word "if", .word "rel", .dot, .word "cardinality", .equal, .text "one"],
    .text ", uselist=False", .instruction [.word "else"], .text ", lazy='select'",
    .instruction [.word "endif"], .text ")\n"]

/-- The chunks of the template of models. -/
def modelChunks : List Chunk :=
  [.text "from sqlalchemy import ",
    .expression [.word "imports", .bar, .word "join", .left, .text ", ", .right], .text "\n",
    .instruction [.word "if", .word "relationships"],
    .text "from sqlalchemy.orm import relationship\n", .instruction [.word "endif"]] ++
  dateChunks ++
  [.text "from .base import Base\n\n\nclass ", .expression [.word "model_name"],
    .text "(Base):\n    __tablename__ = '", .expression [.word "table_name"],
    .text "'\n\n    id = Column(Integer, primary_key=True)\n",
    .instruction [.word "for", .word "field", .word "in", .word "fields"]] ++
  fieldChunks ++
  [.instruction [.word "endfor"],
    .instruction [.word "for", .word "rel", .word "in", .word "relationships"]] ++
  foreignKeyChunks ++
  [.instruction [.word "endfor"], .instruction [.word "if", .word "timestamps"],
    .text ("    created_at = Column(DateTime, default=datetime.utcnow)\n" ++
      "    updated_at = Column(DateTime, default=datetime.utcnow, onupdate=datetime.utcnow)\n"),
    .instruction [.word "endif"], .instruction [.word "if", .word "relationships"], .text "\n",
    .instruction [.word "for", .word "rel", .word "in", .word "relationships"]] ++
  relationshipChunks ++
  [.instruction [.word "endfor"], .instruction [.word "endif"],
    .text "\n    def __repr__(self):\n        return f'<", .expression [.word "model_name"],
    .text " \x7bself.id\x7d>'\n"]

theorem ofSource?_model : Chunk.ofSource? (ofLines model) = some modelChunks := by
  simp only [Chunk.ofSource?, ofLines, model, String.toList_ofList, List.flatMap_cons,
    List.flatMap_nil]
  -- the kernel is quick to take a text apart that is spelled as a list of characters
  repeat rw [String.toList_ofList]
  decide +kernel

/-! ## Nodes -/

/-- The choice of the import of dates. -/
def dateNode : Node :=
  .choose (.and (.name "needs_date") (.name "needs_datetime"))
    [.text "from datetime import date, datetime\n"]
    [.choose (.name "needs_datetime") [.text "from datetime import datetime\n"]
      [.choose (.name "needs_date") [.text "from datetime import date\n"] []]]

/-- The body of the loop over the fields. -/
def fieldNodes : List Node :=
  [.text "    ", .print (.member (.name "field") "name"), .text " = Column(",
    .print (.member (.name "field") "column_type"), .text ", nullable=",
    .print (.choice (.member (.name "field") "nullable") (.literal (.text "True"))
      (.literal (.text "False"))),
    .choose (.member (.name "field") "unique") [.text ", unique=True"] [],
    .choose (.member (.name "field") "index") [.text ", index=True"] [],
    .choose (.not (.passes (.member (.name "field") "default") "none"))
      [.text ", default=", .print (.member (.name "field") "default")] [],
    .text ")\n"]

/-- The body of the loop that makes foreign keys. -/
def foreignKeyNodes : List Node :=
  [.choose (.equal (.member (.name "rel") "cardinality") (.literal (.text "one")))
    [.text "    ", .print (.member (.name "rel") "foreign_key"),
      .text " = Column(Integer, ForeignKey('", .print (.member (.name "rel") "target_table"),
      .text ".id'))\n"] []]

/-- The body of the loop that makes relationships. -/
def relationshipNodes : List Node :=
  [.text "    ", .print (.member (.name "rel") "name"), .text " = relationship('",
    .print (.member (.name "rel") "target"), .text "'",
    .choose (.equal (.member (.name "rel") "cardinality") (.literal (.text "one")))
      [.text ", uselist=False"] [.text ", lazy='select'"],
    .text ")\n"]

/-- The nodes of the template of models. -/
def modelNodes : List Node :=
  [.text "from sqlalchemy import ",
    .print (.filteredWith (.name "imports") "join" (.literal (.text ", "))), .text "\n",
    .choose (.name "relationships") [.text "from sqlalchemy.orm import relationship\n"] [],
    dateNode, .text "from .base import Base\n\n\nclass ", .print (.name "model_name"),
    .text "(Base):\n    __tablename__ = '", .print (.name "table_name"),
    .text "'\n\n    id = Column(Integer, primary_key=True)\n",
    .each "field" (.name "fields") fieldNodes [],
    .each "rel" (.name "relationships") foreignKeyNodes [],
    .choose (.name "timestamps")
      [.text ("    created_at = Column(DateTime, default=datetime.utcnow)\n" ++
        "    updated_at = Column(DateTime, default=datetime.utcnow, onupdate=datetime.utcnow)\n")]
      [],
    .choose (.name "relationships")
      [.text "\n", .each "rel" (.name "relationships") relationshipNodes []] [],
    .text "\n    def __repr__(self):\n        return f'<", .print (.name "model_name"),
    .text " \x7bself.id\x7d>'\n"]

/-! ## Reading -/

section Reading

open Node

variable (before : List Node) (frames : List Frame) (name : String) (items : Expr)

theorem isName_rel : Expr.IsName "rel" := ⟨by decide, rfl⟩

theorem ofTokens?_one :
    Expr.ofTokens? .or [.word "rel", .dot, .word "cardinality", .equal, .text "one"] =
      some (.equal (.member (.name "rel") "cardinality") (.literal (.text "one"))) := by
  simp [Expr.ofTokens?, Expr.read, Expr.operand, Expr.follow, Expr.modify, Expr.extend,
    isName_rel.ofWord_eq, Expr.Level.rank]

theorem ofTokens?_rel (level : Expr.Level) (key : String) :
    Expr.ofTokens? level [.word "rel", .dot, .word key] = some (.member (.name "rel") key) :=
  Expr.ofTokens?_member level key isName_rel

theorem foldlM_dateChunks :
    dateChunks.foldlM step ⟨before, []⟩ = some ⟨before ++ [dateNode], []⟩ := by
  have hdate : Expr.IsName "needs_date" := ⟨by decide, rfl⟩
  have hdateTime : Expr.IsName "needs_datetime" := ⟨by decide, rfl⟩
  have hboth : Expr.ofTokens? .or [.word "needs_date", .word "and", .word "needs_datetime"] =
      some (.and (.name "needs_date") (.name "needs_datetime")) := by
    simp [Expr.ofTokens?, Expr.read, Expr.operand, Expr.follow, Expr.modify, Expr.extend,
      hdate.ofWord_eq, hdateTime.ofWord_eq, Expr.Level.rank]
  rw [dateChunks, read_if hboth, read_text, read_elif (Expr.ofTokens?_name _ hdateTime), read_text,
    read_elif (Expr.ofTokens?_name _ hdate), read_text, read_endif_yes, endChoice_chained,
    endChoice_chained, endChoice_nil]
  rfl

theorem foldlM_fieldChunks :
    fieldChunks.foldlM step ⟨[], .body before name items :: frames⟩ =
      some ⟨fieldNodes, .body before name items :: frames⟩ := by
  have hfield : Expr.IsName "field" := ⟨by decide, rfl⟩
  have hmember := fun level key => Expr.ofTokens?_member level key hfield
  have hnullable : Expr.ofTokens? .choice [.text "True", .word "if", .word "field", .dot,
      .word "nullable", .word "else", .text "False"] =
        some (.choice (.member (.name "field") "nullable") (.literal (.text "True"))
          (.literal (.text "False"))) := by
    simp [Expr.ofTokens?, Expr.read, Expr.operand, Expr.follow, Expr.modify, Expr.extend,
      hfield.ofWord_eq, Expr.Level.rank, Expr.afterWord?]
  have hdefault : Expr.ofTokens? .or [.word "field", .dot, .word "default", .word "is",
      .word "not", .word "none"] =
        some (.not (.passes (.member (.name "field") "default") "none")) := by
    simp [Expr.ofTokens?, Expr.read, Expr.operand, Expr.follow, Expr.modify, Expr.extend,
      hfield.ofWord_eq]
  rw [fieldChunks, read_text, read_expression (hmember _ "name"), read_text,
    read_expression (hmember _ "column_type"), read_text, read_expression hnullable,
    read_if (hmember _ "unique"), read_text, read_endif_yes, endChoice_body,
    read_if (hmember _ "index"), read_text, read_endif_yes, endChoice_body,
    read_if hdefault, read_text, read_expression (hmember _ "default"), read_endif_yes,
    endChoice_body, read_text]
  rfl

theorem foldlM_foreignKeyChunks :
    foreignKeyChunks.foldlM step ⟨[], .body before name items :: frames⟩ =
      some ⟨foreignKeyNodes, .body before name items :: frames⟩ := by
  rw [foreignKeyChunks, read_if ofTokens?_one, read_text, read_expression (ofTokens?_rel _ _),
    read_text, read_expression (ofTokens?_rel _ _), read_text, read_endif_yes, endChoice_body]
  rfl

theorem foldlM_relationshipChunks :
    relationshipChunks.foldlM step ⟨[], .body before name items :: frames⟩ =
      some ⟨relationshipNodes, .body before name items :: frames⟩ := by
  rw [relationshipChunks, read_text, read_expression (ofTokens?_rel _ _), read_text,
    read_expression (ofTokens?_rel _ _), read_text, read_if ofTokens?_one, read_text, read_else,
    read_text, read_endif_no, endChoice_body, read_text]
  rfl

theorem ofChunks?_model : Node.ofChunks? modelChunks = some modelNodes := by
  have himports : Expr.ofTokens? .choice
      [.word "imports", .bar, .word "join", .left, .text ", ", .right] =
        some (.filteredWith (.name "imports") "join" (.literal (.text ", "))) := by
    simp [Expr.ofTokens?, Expr.read, Expr.operand, Expr.follow, Expr.modify, Expr.extend,
      Expr.ofWord]
  have hmodel : Expr.IsName "model_name" := ⟨by decide, rfl⟩
  have htable : Expr.IsName "table_name" := ⟨by decide, rfl⟩
  have hfields : Expr.IsName "fields" := ⟨by decide, rfl⟩
  have hrelationships : Expr.IsName "relationships" := ⟨by decide, rfl⟩
  have htimestamps : Expr.IsName "timestamps" := ⟨by decide, rfl⟩
  have hname := fun level {s} => @Expr.ofTokens?_name level s
  have hread : modelChunks.foldlM step ⟨[], []⟩ = some ⟨modelNodes, []⟩ := by
    simp only [modelChunks, List.append_assoc, List.cons_append, List.nil_append]
    rw [read_text, read_expression himports, read_text, read_if (hname _ hrelationships),
      read_text, read_endif_yes, endChoice_nil, foldlM_append_of_foldlM (foldlM_dateChunks _),
      read_text, read_expression (hname _ hmodel), read_text, read_expression (hname _ htable),
      read_text, read_for (by decide) (hname _ hfields),
      foldlM_append_of_foldlM (foldlM_fieldChunks _ _ _ _), read_endfor,
      read_for (by decide) (hname _ hrelationships),
      foldlM_append_of_foldlM (foldlM_foreignKeyChunks _ _ _ _), read_endfor,
      read_if (hname _ htimestamps), read_text, read_endif_yes, endChoice_nil,
      read_if (hname _ hrelationships), read_text, read_for (by decide) (hname _ hrelationships),
      foldlM_append_of_foldlM (foldlM_relationshipChunks _ _ _ _), read_endfor, read_endif_yes,
      endChoice_nil, read_text, read_expression (hname _ hmodel), read_text]
    rfl
  rw [Node.ofChunks?, hread]
  rfl

end Reading

end Groundwork.Template.Library
