import Groundwork.Proofs.Artifact.Confinement
import Groundwork.Proofs.Artifact.Names
import Groundwork.Proofs.Artifact.PrintedController

/-!
# Agreement of artifacts

Artifacts are generated apart from one another and refer to one another by name. The names agree as
soon as the entity and the target of a relationship come to the same type name, however either of
them was typed: a model that is related to an entity names its class and its table as the model of
the entity does, the controller of the entity imports the class from the file of the model, and the
registration of an artifact imports a class that the artifact defines from the file that it is in
(`Request.generated_names_agree`). What a text names is read off its lines by the words that come
before the name (`Code.spelled`), and where all that was typed is accepted, a text defines no class
and names no table besides (`Request.classes_model`, `Request.classes_controller`).
-/

namespace Groundwork

open Text

/-! ## Reading names off lines -/

namespace Code

/-- The texts that follow a mark at the beginning of a line, each up to the first of some signs. -/
def spelled (mark : String) (stops : List Char) (content : String) : List String :=
  (lines content.toList).filterMap fun line =>
    if mark.toList.isPrefixOf line then
      some (String.ofList ((line.drop mark.toList.length).takeWhile (!stops.contains ·)))
    else none

/-- The classes that a text defines. -/
def classes (content : String) : List String := spelled "class " ['(', ':'] content

/-- The table names that a text gives its classes. -/
def tables (content : String) : List String := spelled "    __tablename__ = '" ['\''] content

/-- The classes that a text relates its own to by an attribute. -/
def related (member content : String) : List String :=
  spelled ("    " ++ member ++ " = relationship('") ['\''] content

/-- The columns that the foreign key of an attribute refers to in a text. -/
def referenced (member content : String) : List String :=
  spelled ("    " ++ member ++ "_id = Column(Integer, ForeignKey('") ['\''] content

/-- What a text imports from a module. -/
def imported (origin content : String) : List String :=
  spelled ("from " ++ origin ++ " import ") [] content

variable {mark content text : String} {stops : List Char} {ls : List String}

theorem takeWhile_of_stop {word rest : List Char} (hword : ∀ c ∈ stops, c ∉ word)
    (hrest : rest.head?.all stops.contains = true) :
    (word ++ rest).takeWhile (!stops.contains ·) = word := by
  have hall : ∀ c ∈ word, (!stops.contains c) = true := by
    intro c hc
    have hs : c ∉ stops := fun hs => hword c hs hc
    simpa using hs
  rw [List.takeWhile_append_of_pos hall]
  cases rest with
  | nil => simp
  | cons c cs =>
    have hc : c ∈ stops := by simpa using hrest
    simp [hc]

theorem mem_spelled : text ∈ spelled mark stops content ↔
    ∃ rest, mark.toList ++ rest ∈ lines content.toList ∧
      rest.takeWhile (!stops.contains ·) = text.toList := by
  simp only [spelled, List.mem_filterMap, Option.ite_none_right_eq_some, Option.some.injEq,
    List.isPrefixOf_iff_prefix]
  constructor
  · rintro ⟨_, hl, ⟨rest, rfl⟩, rfl⟩
    exact ⟨rest, hl, by simp⟩
  · rintro ⟨rest, hl, ht⟩
    exact ⟨_, hl, List.prefix_append _ _, by rw [List.drop_left, ht, String.ofList_toList]⟩

/-- A line with a mark, a text and something that begins with a stop, or with nothing. -/
structure Spells (mark : String) (stops : List Char) (line text : String) : Prop where
  /-- No line feed is in the line. -/
  noFeed : '\n' ∉ line.toList
  /-- No stop is in the text. -/
  noStop : ∀ c ∈ stops, c ∉ text.toList
  /-- The text follows the mark, and a stop or nothing follows the text. -/
  parts : ∃ rest, line = mark ++ text ++ rest ∧ rest.toList.head?.all stops.contains = true

theorem Spells.toList_eq {line : String} (h : Spells mark stops line text) :
    ∃ rest, line.toList = mark.toList ++ rest ∧
      rest.takeWhile (!stops.contains ·) = text.toList := by
  obtain ⟨rest, he, hr⟩ := h.parts
  refine ⟨text.toList ++ rest.toList, ?_, takeWhile_of_stop h.noStop hr⟩
  rw [he, String.toList_append, String.toList_append, List.append_assoc]

/-- What a line of a text spells after a mark. -/
theorem mem_spelled_ofLines {line : String} (hl : line ∈ ls) (h : Spells mark stops line text) :
    text ∈ spelled mark stops (Template.Library.ofLines ls) := by
  obtain ⟨rest, he, ht⟩ := h.toList_eq
  exact mem_spelled.2 ⟨rest, he ▸ Template.Library.mem_lines_ofLines hl h.noFeed, ht⟩

/-- A text in which one line only begins with a mark spells nothing else after it. -/
theorem eq_of_mem_spelled {line other : String} (h : Spells mark stops line text)
    (hn : ∀ l ∈ ls, '\n' ∉ l.toList) (hline : ∀ l ∈ ls, mark.toList <+: l.toList → l = line)
    (hm : other ∈ spelled mark stops (Template.Library.ofLines ls)) : other = text := by
  obtain ⟨rest', hl, ho⟩ := mem_spelled.1 hm
  rw [Template.Library.lines_ofLines hn, List.mem_map] at hl
  obtain ⟨l, hl, hrest⟩ := hl
  obtain rfl := hline l hl (hrest ▸ List.prefix_append _ _)
  obtain ⟨rest, he, ht⟩ := h.toList_eq
  rw [he, List.append_cancel_left_eq] at hrest
  rw [← hrest, ht] at ho
  exact (String.toList_inj.1 ho).symm

/-- Clear characters are no stops. -/
theorem spells_of_clear {rest : String} (hmark : '\n' ∉ mark.toList)
    (hclear : ∀ c ∈ text.toList, isClear c = true) (hstops : stops.all (!isClear ·) = true)
    (hrest : '\n' ∉ rest.toList ∧ rest.toList.head?.all stops.contains = true) :
    Spells mark stops (mark ++ text ++ rest) text where
  noFeed := by
    have ht : '\n' ∉ text.toList := fun hm => ne_of_clear (hclear _ hm) (by decide) rfl
    simp [hmark, ht, hrest.1]
  noStop c hc hm := by
    have hall := List.all_eq_true.1 hstops c hc
    rw [hclear c hm] at hall
    exact absurd hall nofun
  parts := ⟨rest, rfl, hrest.2⟩

end Code

namespace Request

open Code Template.Library

/-- Whether a request makes an artifact of a kind from the template of the library, whatever is
there. -/
def Generates (request : Request) (kind : ArtifactKind) (artifact : Artifact) : Prop :=
  ∀ w, ∃ w', (request.generate kind .library : Action (StateM Workspace) Artifact).run w =
    (.ok artifact, w')

variable {request : Request} {raw : String}

/-- The text of the artifact of a kind. -/
def content (request : Request) : ArtifactKind → String
  | .model => ofLines request.modelLines
  | .controller => ofLines request.controllerLines

theorem generates_artifact (request : Request) (kind : ArtifactKind) :
    request.Generates kind (request.artifact kind (request.content kind)) := by
  intro w
  cases kind with
  | model =>
    obtain ⟨w', h, -⟩ := request.generate_model w
    exact ⟨w', h⟩
  | controller =>
    obtain ⟨w', h, -⟩ := request.generate_controller w
    exact ⟨w', h⟩

/-! ## Models -/

/-- The line in which a model begins its class. -/
def classLine (request : Request) : String := "class " ++ request.entity.typeName ++ "(Base):"

/-- The line in which a model names its table. -/
def tableLine (request : Request) : String :=
  "    __tablename__ = '" ++ request.entity.tableName ++ "'"

theorem spells_classLine (h : Entity.parse raw = .ok request.entity) :
    Spells "class " ['(', ':'] request.classLine request.entity.typeName :=
  spells_of_clear (by decide) (fun _ => Entity.clear_of_mem_typeName h) (by decide)
    ⟨by decide, by decide⟩

theorem spells_tableLine (request : Request) :
    Spells "    __tablename__ = '" ['\''] request.tableLine request.entity.tableName :=
  spells_of_clear (by decide)
    (fun _ => clear_of_identifierTail (Inflection.isIdentifierTail_tableName _)) (by decide)
    ⟨by decide, by decide⟩

theorem classLine_mem (request : Request) : request.classLine ∈ request.headLines :=
  .tail _ (.tail _ (.tail _ (.head _)))

theorem tableLine_mem (request : Request) : request.tableLine ∈ request.headLines :=
  .tail _ (.tail _ (.tail _ (.tail _ (.head _))))

theorem modelLines_of_head {line : String} (h : line ∈ request.headLines) :
    line ∈ request.modelLines :=
  mem_modelLines.2 (.inr (.inr (.inr (.inl h))))

theorem mem_classes_model (h : Entity.parse raw = .ok request.entity) :
    request.entity.typeName ∈ classes (request.content .model) :=
  mem_spelled_ofLines (modelLines_of_head request.classLine_mem) (spells_classLine h)

theorem mem_tables_model (request : Request) :
    request.entity.tableName ∈ tables (request.content .model) :=
  mem_spelled_ofLines (modelLines_of_head request.tableLine_mem) request.spells_tableLine

theorem mem_related_model {r : Relationship} (hr : r ∈ request.relationships) (h : r.Accepted) :
    r.target ∈ related r.name (request.content .model) := by
  have hname : '\n' ∉ r.name.toList :=
    not_mem_of_printable (printable_of_identifierTail (isIdentifierTail_of_member h.name))
  have hline : r.attributeLine ∈ request.modelLines :=
    mem_modelLines.2 (.inr (.inr (.inr (.inr (.inr (.inr (.inr (.inl
      ⟨List.ne_nil_of_mem hr, .inr ⟨r, hr, rfl⟩⟩))))))))
  refine mem_spelled_ofLines hline ?_
  have hspells := @spells_of_clear ("    " ++ r.name ++ " = relationship('") r.target ['\'']
    (String.join ["'", if r.cardinality = .one then ", uselist=False" else ", lazy='select'", ")"])
    (by simp [hname]) (fun _ => Relationship.clear_of_mem_target h) (by decide)
    (by split <;> exact ⟨by decide, by decide⟩)
  convert hspells using 1
  simp only [Relationship.attributeLine, String.join_cons, String.append_assoc]

theorem mem_referenced_model {r : Relationship} (hr : r ∈ request.relationships) (h : r.Accepted)
    (hone : r.cardinality = .one) :
    r.targetTable ++ ".id" ∈ referenced r.name (request.content .model) := by
  have hname : '\n' ∉ r.name.toList :=
    not_mem_of_printable (printable_of_identifierTail (isIdentifierTail_of_member h.name))
  have htable {c : Char} (hc : isClear c = false) : c ∉ r.targetTable.toList := fun hm =>
    ne_of_clear (clear_of_identifierTail (Inflection.isIdentifierTail_tableName _) hm) hc rfl
  have hline : r.foreignKeyLine ∈ request.modelLines :=
    mem_modelLines.2 (.inr (.inr (.inr (.inr (.inr (.inl ⟨r, hr, hone, rfl⟩))))))
  have hparts : r.foreignKeyLine = "    " ++ r.name ++ "_id = Column(Integer, ForeignKey('" ++
      (r.targetTable ++ ".id") ++ "'))" := by
    simp only [Relationship.foreignKeyLine, Relationship.foreignKey, String.join_cons,
      String.join_nil, String.append_assoc]
    rfl
  refine mem_spelled_ofLines hline ⟨?_, ?_, ⟨_, hparts, by decide⟩⟩
  · exact not_mem_of_printable (Relationship.printable_foreignKeyLine h)
  · have hquote := htable (show isClear '\'' = false by decide)
    simp [hquote]

/-- The lines of a model that begin a class. -/
theorem eq_classLine {line : String} (hl : line ∈ request.modelLines)
    (h : "class ".toList <+: line.toList) : line = request.classLine := by
  have hdates : ∀ line ∈ request.dateLines, ¬"class ".toList <+: line.toList := by
    rw [dateLines]
    cases request.needsDate <;> cases request.needsDateTime <;> decide
  obtain rfl | rfl | rfl | ⟨-, rfl⟩ | hl | rfl := top_cases hl (not_indented h (by decide))
  · simp at h
  · rfl
  · simp at h
  · simp at h
  · exact absurd h (hdates _ hl)
  · simp at h

/-- A model defines its class and no other. -/
theorem classes_model (h : request.Accepted) {name : String}
    (hm : name ∈ classes (request.content .model)) : name = request.entity.typeName := by
  obtain ⟨raw, hraw⟩ := h.entity
  exact eq_of_mem_spelled (spells_classLine hraw)
    (fun l hl => not_mem_of_printable (printable_of_mem_modelLines h hl))
    (fun l hl => eq_classLine hl) hm

/-- The declaration of a column or an attribute is none of a table, whatever its name: no literal
stands right after the equals sign. -/
theorem not_table_of_declaration {name : List Char} (hname : ' ' ∉ name) {c : Char}
    (hc : c ≠ '\'') (rest : List Char) :
    ¬"    __tablename__ = '".toList <+: "    ".toList ++ (name ++ (" = ".toList ++ c :: rest)) := by
  rintro ⟨t, ht⟩
  have hmark : "    __tablename__ = '".toList =
      "    ".toList ++ ("__tablename__".toList ++ ' ' :: ['=', ' ', '\'']) := by decide
  have hequals : " = ".toList = ' ' :: ['=', ' '] := by decide
  rw [hmark, hequals, List.append_assoc, List.append_cancel_left_eq, List.append_assoc] at ht
  have hpieces := congrArg (cutFirst ' ') ht
  simp only [List.cons_append, List.nil_append] at hpieces
  rw [cutFirst_append_cons (by decide), cutFirst_append_cons hname] at hpieces
  simp [Ne.symm hc] at hpieces

/-- The lines of a model that name a table. -/
theorem eq_tableLine (h : request.Accepted) {line : String} (hl : line ∈ request.modelLines)
    (hm : "    __tablename__ = '".toList <+: line.toList) : line = request.tableLine := by
  have hspace {name : String} (hn : isMemberName name = true) : ' ' ∉ name.toList := fun hc =>
    ne_of_clear (clear_of_identifierTail (isIdentifierTail_of_member hn) hc)
      (by decide : isClear ' ' = false) rfl
  obtain rfl | ⟨-, rfl⟩ | hl | hl | ⟨field, hf, rfl⟩ | ⟨r, hr, -, rfl⟩ | ⟨-, hl⟩ |
    ⟨-, rfl | ⟨r, hr, rfl⟩⟩ | hl := mem_modelLines.1 hl
  · simp at hm
  · simp at hm
  · have hdates : ∀ line ∈ request.dateLines, ¬"    __tablename__ = '".toList <+: line.toList := by
      rw [dateLines]
      cases request.needsDate <;> cases request.needsDateTime <;> decide
    exact absurd hm (hdates _ hl)
  · simp only [headLines, List.mem_cons, List.not_mem_nil, or_false] at hl
    obtain rfl | rfl | rfl | rfl | rfl | rfl | rfl := hl
    case inr.inr.inr.inr.inl => rfl
    all_goals simp at hm
  · refine absurd hm ?_
    simp only [Field.columnLine, String.join_cons, String.toList_append]
    exact not_table_of_declaration (hspace (h.fields field hf).name) (by decide) _
  · have hkey : ' ' ∉ r.foreignKey.toList := by
      have hn := hspace (h.relationships r hr).name
      simp [Relationship.foreignKey, hn]
    refine absurd hm ?_
    simp only [Relationship.foreignKeyLine, String.join_cons, String.toList_append]
    exact not_table_of_declaration hkey (by decide) _
  · simp only [timestampLines, List.mem_cons, List.not_mem_nil, or_false] at hl
    obtain rfl | rfl := hl <;> simp at hm
  · simp at hm
  · refine absurd hm ?_
    simp only [Relationship.attributeLine, String.join_cons, String.toList_append]
    exact not_table_of_declaration (hspace (h.relationships r hr).name) (by decide) _
  · simp only [tailLines, List.mem_cons, List.not_mem_nil, or_false] at hl
    obtain rfl | rfl | rfl := hl <;> simp at hm

/-- A model names its table and no other, not even where a field is named as the table is. -/
theorem tables_model (h : request.Accepted) {name : String}
    (hm : name ∈ tables (request.content .model)) : name = request.entity.tableName :=
  eq_of_mem_spelled request.spells_tableLine
    (fun _ hl => not_mem_of_printable (printable_of_mem_modelLines h hl))
    (fun _ hl => eq_tableLine h hl) hm

/-! ## Controllers -/

open Template (Piece)

/-- The line in which a controller begins its class. -/
def controllerLine (request : Request) : String :=
  "class " ++ ArtifactKind.className .controller request.entity ++ ":"

/-- The line in which a controller imports the class of its model. -/
def importLine (request : Request) : String :=
  "from models." ++ request.entity.fileStem ++ " import " ++ request.entity.typeName

theorem not_feed_of_mem_fileStem (h : Entity.parse raw = .ok request.entity) :
    '\n' ∉ request.entity.fileStem.toList := fun hm =>
  absurd ((Entity.wellNamed_of_parse h).fileStem_signs _ hm) (by decide)

theorem spells_controllerLine (h : Entity.parse raw = .ok request.entity) :
    Spells "class " ['(', ':'] request.controllerLine
      (ArtifactKind.className .controller request.entity) := by
  refine spells_of_clear (by decide) (fun c hc => ?_) (by decide) ⟨by decide, by decide⟩
  rw [ArtifactKind.className, String.toList_append, List.mem_append] at hc
  obtain hc | hc := hc
  · exact Entity.clear_of_mem_typeName h hc
  · have hall : "Controller".toList.all isClear = true := by decide
    exact List.all_eq_true.1 hall c hc

theorem spells_importLine (h : Entity.parse raw = .ok request.entity) :
    Spells ("from " ++ ("models." ++ request.entity.fileStem) ++ " import ") [] request.importLine
      request.entity.typeName := by
  have hstem := not_feed_of_mem_fileStem h
  have hspells := @spells_of_clear ("from " ++ ("models." ++ request.entity.fileStem) ++ " import ")
    request.entity.typeName [] "" (by simp [hstem]) (fun _ => Entity.clear_of_mem_typeName h)
    (by simp) ⟨by decide, by decide⟩
  convert hspells using 1
  simp only [importLine, ← String.append_assoc, String.append_empty]
  rfl

theorem controllerLines_of_head {line : String}
    (h : line ∈ Piece.lines request.entity.filledIn controllerHead) :
    line ∈ request.controllerLines := by
  simp only [controllerLines, List.mem_append, h, true_or]

theorem mem_classes_controller (h : Entity.parse raw = .ok request.entity) :
    ArtifactKind.className .controller request.entity ∈ classes (request.content .controller) := by
  have hline : request.controllerLine ∈ request.controllerLines := by
    refine controllerLines_of_head (List.mem_map.2
      ⟨[.text "class ", .name "model_name", .text "Controller:"], by decide, ?_⟩)
    simp [Piece.fill, String.join_cons, controllerLine, ArtifactKind.className, String.append_assoc]
  exact mem_spelled_ofLines hline (spells_controllerLine h)

theorem mem_imported_controller (h : Entity.parse raw = .ok request.entity) :
    request.entity.typeName ∈
      imported ("models." ++ request.entity.fileStem) (request.content .controller) := by
  have hline : request.importLine ∈ request.controllerLines := by
    refine controllerLines_of_head (List.mem_map.2
      ⟨[.text "from models.", .name "file_stem", .text " import ", .name "model_name"],
        by decide, ?_⟩)
    simp [Piece.fill, String.join_cons, importLine, String.append_assoc]
  exact mem_spelled_ofLines hline (spells_importLine h)

/-- What the lines of a controller are made from. -/
theorem mem_controllerLines {line : String} : line ∈ request.controllerLines ↔
    (∃ ls ∈ [controllerHead, controllerMiddle, controllerTail],
      line ∈ Piece.lines request.entity.filledIn ls) ∨
    ∃ field ∈ request.fields, line = field.storeLine ∨ line = field.updateLine := by
  simp only [controllerLines, List.mem_append, List.mem_map, List.mem_cons, List.not_mem_nil,
    or_false, exists_eq_or_imp, exists_eq_left, and_or_left, exists_or, @eq_comm _ line]
  simp only [or_assoc, or_left_comm, or_comm]

theorem not_feed_of_mem_controllerLines (h : request.Accepted) {line : String}
    (hl : line ∈ request.controllerLines) : '\n' ∉ line.toList := by
  obtain ⟨raw, hraw⟩ := h.entity
  obtain ⟨ls, hls, hl⟩ | ⟨field, hf, hl⟩ := mem_controllerLines.1 hl
  · have hvalue : ∀ word, '\n' ∉ (request.entity.filledIn word).toList := by
      intro word
      rw [Entity.filledIn]
      split
      · exact not_feed_of_mem_fileStem hraw
      · exact not_mem_of_printable
          (printable_of_clear fun _ hc => Entity.clear_of_mem_typeName hraw hc)
    have htexts : ∀ ls ∈ [controllerHead, controllerMiddle, controllerTail], ∀ line ∈ ls,
        ∀ piece ∈ line, '\n' ∉ (piece.fill fun _ => "").toList := by decide +kernel
    exact Piece.not_mem_lines hvalue (htexts ls hls) line hl
  · have hname : '\n' ∉ field.name.toList :=
      not_mem_of_printable (printable_of_identifierTail
        (isIdentifierTail_of_member (h.fields field hf).name))
    obtain rfl | rfl := hl
    · simp [Field.storeLine, hname]
    · simp [Field.updateLine, hname]

/-- The lines of a controller that begin a class. -/
theorem eq_controllerLine {line : String} (hl : line ∈ request.controllerLines)
    (h : "class ".toList <+: line.toList) : line = request.controllerLine := by
  obtain ⟨ls, hls, hl⟩ | ⟨field, hf, rfl | rfl⟩ := mem_controllerLines.1 hl
  · have hopen : ∀ ls ∈ [controllerHead, controllerMiddle, controllerTail],
        ∀ line ∈ ls.filter (Piece.mayOpen "class "),
          line = [.text "class ", .name "model_name", .text "Controller:"] := by
        decide +kernel
    obtain ⟨pieces, hp, rfl⟩ := List.mem_map.1 (Piece.mem_lines_filter hl h)
    rw [hopen ls hls pieces hp]
    simp [Piece.fill, String.join_cons, controllerLine, ArtifactKind.className, String.append_assoc]
  · simp [Field.storeLine] at h
  · simp [Field.updateLine] at h

/-- A controller defines its class and no other. -/
theorem classes_controller (h : request.Accepted) {name : String}
    (hm : name ∈ classes (request.content .controller)) :
    name = ArtifactKind.className .controller request.entity := by
  obtain ⟨raw, hraw⟩ := h.entity
  exact eq_of_mem_spelled (spells_controllerLine hraw)
    (fun _ hl => not_feed_of_mem_controllerLines h hl) (fun _ hl => eq_controllerLine hl) hm

end Request

/-! ## Agreement -/

/-- Whether the registration of an artifact imports a class that the artifact defines from the file
that it is in. -/
def Artifact.Registrable (artifact : Artifact) : Prop :=
  ∃ origin name, artifact.registration = "from ." ++ origin ++ " import " ++ name ∧
    artifact.path.fileName? = some (origin ++ ".py") ∧ name ∈ Code.classes artifact.content

namespace Request

open Code

variable {raw entry : String} {entity : Entity} {r : Relationship}

theorem registrable_artifact {request : Request} (h : Entity.parse raw = .ok request.entity)
    (kind : ArtifactKind) : (request.artifact kind (request.content kind)).Registrable := by
  refine ⟨kind.moduleName request.entity, kind.className request.entity, rfl, ?_, ?_⟩
  · rw [artifact, kind.path_eq]
    exact Path.fileName?_pair kind.isName_directory
      (ArtifactKind.isName_fileName (Entity.wellNamed_of_parse h))
  · cases kind with
    | model => exact mem_classes_model h
    | controller => exact mem_classes_controller h

/-- **Separately generated artifacts agree on names.** Let a name and the target of a relationship
come to the same type name, however they were typed. Then the class and the table to which a model
with the relationship refers are those of every model of the entity, and every controller of the
entity imports the class from the module in which the model lies. Both are registered by the import
of a class that they define, from the file that they are in. Where everything was accepted, the
class and the table are the only ones in the model, and the class is the only one in the
controller. -/
theorem generated_names_agree (hentity : Entity.parse raw = .ok entity)
    (hentry : Relationship.parse entry = .ok r) (htarget : r.target = entity.typeName)
    {owner request request' : Request} (howner : r ∈ owner.relationships)
    (hrequest : request.entity = entity) (hrequest' : request'.entity = entity) :
    ∃ relating model controller,
      owner.Generates .model relating ∧ request.Generates .model model ∧
      request'.Generates .controller controller ∧
      entity.typeName ∈ related r.name relating.content ∧
      entity.typeName ∈ classes model.content ∧
      (r.cardinality = .one →
        entity.tableName ++ ".id" ∈ referenced r.name relating.content ∧
        entity.tableName ∈ tables model.content) ∧
      entity.typeName ∈ imported ("models." ++ entity.fileStem) controller.content ∧
      model.path = ⟨"models/" ++ entity.fileStem ++ ".py"⟩ ∧
      model.Registrable ∧ controller.Registrable ∧
      (request.Accepted →
        (∀ other ∈ classes model.content, other = entity.typeName) ∧
        ∀ other ∈ tables model.content, other = entity.tableName) ∧
      (request'.Accepted →
        ∀ other ∈ classes controller.content, other = entity.typeName ++ "Controller") := by
  subst hrequest
  have hentity' : Entity.parse raw = .ok request'.entity := hrequest' ▸ hentity
  have hr : r.Accepted := Relationship.accepted_of_parse hentry
  have htable : r.targetTable = request.entity.tableName := by
    rw [Relationship.targetTable, htarget, Entity.tableName]
  refine ⟨_, _, _, owner.generates_artifact .model, request.generates_artifact .model,
    request'.generates_artifact .controller, ?related, mem_classes_model hentity, ?referenced,
    ?imported, rfl, registrable_artifact hentity .model, registrable_artifact hentity' .controller,
    fun h => ⟨fun _ => classes_model h, fun _ => tables_model h⟩, ?only⟩
  case related => exact htarget ▸ mem_related_model howner hr
  case referenced =>
    exact fun hone => ⟨htable ▸ mem_referenced_model howner hr hone, mem_tables_model request⟩
  case imported => exact hrequest' ▸ mem_imported_controller hentity'
  case only => exact fun h _ hm => hrequest' ▸ classes_controller h hm

/-- A product is typed with a blank before it and in small letters, and its class is typed with
blanks around it where an order refers to it. -/
theorem generated_names_agree_respelled :
    ∃ relating model controller,
      Generates ⟨⟨"Pedido", "pedido"⟩, [], [⟨"item", "Produto", .one⟩], true⟩ .model relating ∧
      Generates ⟨⟨"Produto", "produto"⟩, [], [], true⟩ .model model ∧
      Generates ⟨⟨"Produto", "produto"⟩, [], [], false⟩ .controller controller ∧
      "Produto" ∈ related "item" relating.content ∧ "Produto" ∈ classes model.content ∧
      "produtos.id" ∈ referenced "item" relating.content ∧ "produtos" ∈ tables model.content ∧
      "Produto" ∈ imported "models.produto" controller.content ∧
      ∀ other ∈ classes model.content, other = "Produto" := by
  have hentity : Entity.parse " produto" = .ok ⟨"Produto", "produto"⟩ := by decide +kernel
  have hentry : Relationship.parse "item: Produto :ONE" = .ok ⟨"item", "Produto", .one⟩ := by
    decide +kernel
  have htable : Entity.tableName ⟨"Produto", "produto"⟩ = "produtos" := by decide +kernel
  obtain ⟨relating, model, controller, hrelating, hmodel, hcontroller, hrelated, hclass, hone,
      himport, -, -, -, honly, -⟩ :=
    @generated_names_agree _ _ _ _ hentity hentry rfl
      ⟨⟨"Pedido", "pedido"⟩, [], [⟨"item", "Produto", .one⟩], true⟩
      ⟨⟨"Produto", "produto"⟩, [], [], true⟩ ⟨⟨"Produto", "produto"⟩, [], [], false⟩
      (List.mem_singleton_self _) rfl rfl
  rw [htable] at hone
  exact ⟨relating, model, controller, hrelating, hmodel, hcontroller, hrelated, hclass,
    (hone rfl).1, (hone rfl).2, himport, (honly ⟨⟨_, hentity⟩, nofun, nofun⟩).1⟩

end Request

end Groundwork
