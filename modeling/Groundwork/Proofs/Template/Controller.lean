import Groundwork.Proofs.Template.Pieces

/-!
# The template of controllers as nodes

The template of controllers consists of lines in which the names of the entity are filled in, and of
two loops over the fields. Its source is cut into the chunks `controllerChunks`
(`ofSource?_controller`), and these are read as the nodes `controllerNodes`
(`ofChunks?_controller`).
-/

namespace Groundwork.Template.Library

/-! ## Lines -/

/-- The lines before the fields that are stored. -/
def controllerHead : List (List Piece) :=
  [[.text "from flask import request, flash, redirect, url_for, render_template"],
    [.text "from models.base import db"],
    [.text "from models.", .name "file_stem", .text " import ", .name "model_name"],
    [],
    [],
    [.text "class ", .name "model_name", .text "Controller:"],
    [.text "    def index():"],
    [.text "        \"\"\"List every ", .name "model_name", .text ".\"\"\""],
    [.text "        items = ", .name "model_name", .text ".query.all()"],
    [.text "        return render_template('", .name "file_stem",
      .text "/index.html', items=items)"],
    [],
    [.text "    def create():"],
    [.text "        \"\"\"Show the creation form.\"\"\""],
    [.text "        item = ", .name "model_name", .text "()"],
    [.text "        return render_template('", .name "file_stem",
      .text "/create.html', item=item)"],
    [],
    [.text "    def store():"],
    [.text "        \"\"\"Persist a new ", .name "model_name", .text ".\"\"\""],
    [.text "        item = ", .name "model_name", .text "()"]]

/-- The lines between the two loops over the fields. -/
def controllerMiddle : List (List Piece) :=
  [[.text "        try:"],
    [.text "            db.session.add(item)"],
    [.text "            db.session.commit()"],
    [.text "            flash('", .name "model_name", .text " created.', 'success')"],
    [.text "            return redirect(url_for('", .name "file_stem", .text ".index'))"],
    [.text "        except Exception as e:"],
    [.text "            db.session.rollback()"],
    [.text "            flash(f'Could not create ", .name "model_name",
      .text ": \x7be\x7d', 'danger')"],
    [.text "            return render_template('", .name "file_stem",
      .text "/create.html', item=item)"],
    [],
    [.text "    def show(id):"],
    [.text "        \"\"\"Show one ", .name "model_name", .text ".\"\"\""],
    [.text "        item = ", .name "model_name", .text ".query.get_or_404(id)"],
    [.text "        return render_template('", .name "file_stem",
      .text "/show.html', item=item)"],
    [],
    [.text "    def edit(id):"],
    [.text "        \"\"\"Show the edit form.\"\"\""],
    [.text "        item = ", .name "model_name", .text ".query.get_or_404(id)"],
    [.text "        return render_template('", .name "file_stem",
      .text "/edit.html', item=item)"],
    [],
    [.text "    def update(id):"],
    [.text "        \"\"\"Update an existing ", .name "model_name", .text ".\"\"\""],
    [.text "        item = ", .name "model_name", .text ".query.get_or_404(id)"]]

/-- The lines after the fields that are updated. -/
def controllerTail : List (List Piece) :=
  [[.text "        try:"],
    [.text "            db.session.commit()"],
    [.text "            flash('", .name "model_name", .text " updated.', 'success')"],
    [.text "            return redirect(url_for('", .name "file_stem",
      .text ".show', id=item.id))"],
    [.text "        except Exception as e:"],
    [.text "            db.session.rollback()"],
    [.text "            flash(f'Could not update ", .name "model_name",
      .text ": \x7be\x7d', 'danger')"],
    [.text "            return render_template('", .name "file_stem",
      .text "/edit.html', item=item)"],
    [],
    [.text "    def destroy(id):"],
    [.text "        \"\"\"Delete a ", .name "model_name", .text ".\"\"\""],
    [.text "        item = ", .name "model_name", .text ".query.get_or_404(id)"],
    [.text "        try:"],
    [.text "            db.session.delete(item)"],
    [.text "            db.session.commit()"],
    [.text "            flash('", .name "model_name", .text " removed.', 'success')"],
    [.text "            return redirect(url_for('", .name "file_stem", .text ".index'))"],
    [.text "        except Exception as e:"],
    [.text "            db.session.rollback()"],
    [.text "            flash(f'Could not remove ", .name "model_name",
      .text ": \x7be\x7d', 'danger')"],
    [.text "            return redirect(url_for('", .name "file_stem",
      .text ".show', id=item.id))"]]

/-! ## Chunks -/

/-- The chunks of the body of the loop over the fields that are stored. -/
def storeChunks : List Chunk :=
  [.text "        item.", .expression [.word "field", .dot, .word "name"],
    .text " = request.form.get('", .expression [.word "field", .dot, .word "name"], .text "')\n"]

/-- The chunks of the body of the loop over the fields that are updated. -/
def updateChunks : List Chunk :=
  [.text "        item.", .expression [.word "field", .dot, .word "name"],
    .text " = request.form.get('", .expression [.word "field", .dot, .word "name"],
    .text "', item.", .expression [.word "field", .dot, .word "name"], .text ")\n"]

/-- The chunks of the template of controllers. -/
def controllerChunks : List Chunk :=
  (Piece.ofLines controllerHead).map Piece.chunk ++
  ([.instruction [.word "for", .word "field", .word "in", .word "fields"]] ++ storeChunks ++
  ([.instruction [.word "endfor"]] ++ (Piece.ofLines controllerMiddle).map Piece.chunk ++
  ([.instruction [.word "for", .word "field", .word "in", .word "fields"]] ++ updateChunks ++
  ([.instruction [.word "endfor"]] ++ (Piece.ofLines controllerTail).map Piece.chunk))))

theorem ofSource?_controller : Chunk.ofSource? (ofLines controller) = some controllerChunks := by
  simp only [Chunk.ofSource?, ofLines, controller, String.toList_ofList, List.flatMap_cons,
    List.flatMap_nil]
  -- the kernel is quick to take a text apart that is spelled as a list of characters
  repeat rw [String.toList_ofList]
  decide +kernel

/-! ## Nodes -/

/-- The body of the loop over the fields that are stored. -/
def storeNodes : List Node :=
  [.text "        item.", .print (.member (.name "field") "name"), .text " = request.form.get('",
    .print (.member (.name "field") "name"), .text "')\n"]

/-- The body of the loop over the fields that are updated. -/
def updateNodes : List Node :=
  [.text "        item.", .print (.member (.name "field") "name"), .text " = request.form.get('",
    .print (.member (.name "field") "name"), .text "', item.",
    .print (.member (.name "field") "name"), .text ")\n"]

/-- The nodes of the template of controllers. -/
def controllerNodes : List Node :=
  (Piece.ofLines controllerHead).map Piece.node ++
  (.each "field" (.name "fields") storeNodes [] ::
    ((Piece.ofLines controllerMiddle).map Piece.node ++
      .each "field" (.name "fields") updateNodes [] ::
        (Piece.ofLines controllerTail).map Piece.node))

/-! ## Reading -/

section Reading

open Node

/-- The names that are filled in are those of the class and of the file. -/
theorem words_controller {ls : List (List Piece)}
    (h : ls ∈ [controllerHead, controllerMiddle, controllerTail]) :
    ∀ word ∈ Piece.words (Piece.ofLines ls), word = "file_stem" ∨ word = "model_name" := by
  rw [Piece.words_ofLines]
  revert ls
  decide

theorem isName_controller {ls : List (List Piece)}
    (h : ls ∈ [controllerHead, controllerMiddle, controllerTail]) :
    ∀ word ∈ Piece.words (Piece.ofLines ls), Expr.IsName word := by
  intro word hw
  obtain rfl | rfl := words_controller h word hw
  · exact ⟨by decide, rfl⟩
  · exact ⟨by decide, rfl⟩

variable (before : List Node) (frames : List Frame) (name : String) (items : Expr)

theorem ofTokens?_field (level : Expr.Level) (key : String) :
    Expr.ofTokens? level [.word "field", .dot, .word key] = some (.member (.name "field") key) :=
  Expr.ofTokens?_member level key ⟨by decide, rfl⟩

theorem foldlM_storeChunks :
    storeChunks.foldlM step ⟨[], .body before name items :: frames⟩ =
      some ⟨storeNodes, .body before name items :: frames⟩ := by
  rw [storeChunks, read_text, read_expression (ofTokens?_field _ _), read_text,
    read_expression (ofTokens?_field _ _), read_text]
  rfl

theorem foldlM_updateChunks :
    updateChunks.foldlM step ⟨[], .body before name items :: frames⟩ =
      some ⟨updateNodes, .body before name items :: frames⟩ := by
  rw [updateChunks, read_text, read_expression (ofTokens?_field _ _), read_text,
    read_expression (ofTokens?_field _ _), read_text, read_expression (ofTokens?_field _ _),
    read_text]
  rfl

theorem ofChunks?_controller : Node.ofChunks? controllerChunks = some controllerNodes := by
  have hfields : Expr.IsName "fields" := ⟨by decide, rfl⟩
  have hname := fun level {s} => @Expr.ofTokens?_name level s
  have hpieces := fun ls h => read_pieces (@isName_controller ls h)
  have hread : controllerChunks.foldlM step ⟨[], []⟩ = some ⟨controllerNodes, []⟩ := by
    simp only [controllerChunks, List.cons_append, List.nil_append]
    rw [hpieces controllerHead (by simp), read_for (by decide) (hname _ hfields),
      foldlM_append_of_foldlM (foldlM_storeChunks _ _ _ _), read_endfor,
      hpieces controllerMiddle (by simp), read_for (by decide) (hname _ hfields),
      foldlM_append_of_foldlM (foldlM_updateChunks _ _ _ _), read_endfor,
      ← List.append_nil ((Piece.ofLines controllerTail).map Piece.chunk),
      hpieces controllerTail (by simp)]
    simp only [controllerNodes, List.nil_append, List.append_assoc, List.cons_append]
    rfl
  rw [Node.ofChunks?, hread]
  rfl

end Reading

end Groundwork.Template.Library
