import Groundwork.Proofs.Artifact.Printing
import Groundwork.Proofs.Template.Controller

/-!
# Printed controllers

`Request.controllerLines` are the lines of the controller of a request: those of the template with
the names of the entity filled in, and two lines for each field. What the template makes in the
scope of the request is the same (`Request.renderAll_controllerNodes`), so the controller is
generated for every request, and its lines are these (`Request.generate_controller`).
-/

namespace Groundwork

open Template (Node Value Scope Piece)

/-! ## The printer -/

/-- The line that stores the value of a field in a new item. -/
def Field.storeLine (field : Field) : String :=
  String.join ["        item.", field.name, " = request.form.get('", field.name, "')"]

/-- The line that replaces the value of a field in an item. -/
def Field.updateLine (field : Field) : String :=
  String.join ["        item.", field.name, " = request.form.get('", field.name, "', item.",
    field.name, ")"]

namespace Entity

/-- What the names in the lines of a controller stand for. -/
def filledIn (entity : Entity) (word : String) : String :=
  if word = "file_stem" then entity.fileStem else entity.typeName

variable (entity : Entity)

@[simp] theorem filledIn_stem : entity.filledIn "file_stem" = entity.fileStem := rfl

@[simp] theorem filledIn_name : entity.filledIn "model_name" = entity.typeName := rfl

end Entity

namespace Request

/-- The lines of the controller of a request. -/
def controllerLines (request : Request) : List String :=
  Piece.lines request.entity.filledIn Template.Library.controllerHead
    ++ request.fields.map Field.storeLine
    ++ Piece.lines request.entity.filledIn Template.Library.controllerMiddle
    ++ request.fields.map Field.updateLine
    ++ Piece.lines request.entity.filledIn Template.Library.controllerTail

/-! ## Rendering -/

open Template Template.Node Template.Library

variable (scope : Scope) (field : Field) (request : Request)

theorem renderAll_storeNodes :
    renderAll (("field", fieldValue field) :: scope) storeNodes =
      .ok (field.storeLine ++ "\n") := by
  obtain ⟨hname, -⟩ := get_fieldValue field
  refine (renderAll_cons render_text <|
    renderAll_cons (render_print (value_member_head hname) nofun) <|
    renderAll_cons render_text <|
    renderAll_cons (render_print (value_member_head hname) nofun) <|
    renderAll_singleton render_text).trans ?_
  refine congrArg Except.ok ?_
  simp only [Field.storeLine, String.join_cons, String.join_nil, Value.printed_text,
    String.append_assoc]
  rfl

theorem renderAll_updateNodes :
    renderAll (("field", fieldValue field) :: scope) updateNodes =
      .ok (field.updateLine ++ "\n") := by
  obtain ⟨hname, -⟩ := get_fieldValue field
  refine (renderAll_cons render_text <|
    renderAll_cons (render_print (value_member_head hname) nofun) <|
    renderAll_cons render_text <|
    renderAll_cons (render_print (value_member_head hname) nofun) <|
    renderAll_cons render_text <|
    renderAll_cons (render_print (value_member_head hname) nofun) <|
    renderAll_singleton render_text).trans ?_
  refine congrArg Except.ok ?_
  simp only [Field.updateLine, String.join_cons, String.join_nil, Value.printed_text,
    String.append_assoc]
  rfl

theorem renderAll_controllerPieces {ls : List (List Piece)}
    (h : ls ∈ [controllerHead, controllerMiddle, controllerTail]) :
    renderAll request.scope ((Piece.ofLines ls).map Piece.node) =
      .ok (ofLines (Piece.lines request.entity.filledIn ls)) := by
  rw [← Piece.join_ofLines]
  refine renderAll_pieces fun word hw => ?_
  obtain rfl | rfl := words_controller h word hw
  · rfl
  · rfl

/-- Rendered in the scope of a request, the template of controllers makes the lines that the printer
makes. -/
theorem renderAll_controllerNodes :
    renderAll request.scope controllerNodes = .ok (ofLines request.controllerLines) := by
  obtain ⟨-, -, hfields, -⟩ := value_scope request
  have hpieces := fun ls h => @renderAll_controllerPieces request ls h
  refine (renderAll_append (hpieces controllerHead (by simp)) <|
    renderAll_cons (render_each hfields (renderAll_storeNodes _)) <|
    renderAll_append (hpieces controllerMiddle (by simp)) <|
    renderAll_cons (render_each hfields (renderAll_updateNodes _)) <|
    hpieces controllerTail (by simp)).trans ?_
  simp only [controllerLines, ofLines_append, join_map_line, String.append_assoc]

/-- The template of controllers prints what the printer prints. -/
theorem render_controller :
    Template.render (ofLines controller) request.scope = .ok (ofLines request.controllerLines) := by
  rw [Template.render, ofSource?, ofSource?_controller]
  simp only [Option.bind_eq_bind, Option.bind_some, ofChunks?_controller]
  exact renderAll_controllerNodes request

theorem source?_controller :
    source? ArtifactKind.controller.templateName = some (ofLines controller) := by
  simp [ArtifactKind.templateName, source?, templates, controllerName, modelName, List.lookup_cons]

/-- **The generated controller is the printed one.** Whatever the request, the controller is
generated from the template of the library without a problem, its text consists of the lines of the
printer, each ended by a line feed, and no file is touched. -/
theorem generate_controller (w : Workspace) :
    ∃ w', (request.generate .controller .library : Action (StateM Workspace) Artifact).run w =
        (.ok (request.artifact .controller (ofLines request.controllerLines)), w') ∧
      w'.files = w.files :=
  request.run_generate source?_controller (render_controller request) w

end Request

end Groundwork
