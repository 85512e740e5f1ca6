import Groundwork.Proofs.Artifact.Agreement

/-!
# What a controller shows of the fields

The template of controllers is a fixed text with two loops over the fields, the body of each being
one line (`Template.Library.controller_eq`). So a controller is made from the names of the entity
and the names of the fields, in order, and from nothing else of the request
(`Request.generate_controller_reads`). A field shows in two lines: one in the method that stores a
new item, and one in the method that changes an item (`Code.methodLines`); without these lines the
controller is the one of an entity that has no fields.
-/

namespace Groundwork

open Template (Piece)

/-! ## The source of the template -/

namespace Template

/-- What stands in the source of a template for a piece. -/
def Piece.source : Piece → String
  | text s => s
  | name word => "\x7b\x7b " ++ word ++ " \x7d\x7d"

/-- What stands in the source of a template for a line. -/
def Piece.lineSource (line : List Piece) : String := String.join (line.map Piece.source)

/-- A stretch of a template. -/
inductive Stretch
  /-- Lines that are there once. -/
  | once (lines : List (List Piece))
  /-- A line that is there for every field. -/
  | eachField (line : List Piece)

namespace Stretch

/-- The lines of the source of a template that a stretch stands for. -/
def source : Stretch → List String
  | once lines => lines.map Piece.lineSource
  | eachField line =>
    ["\x7b% for field in fields %\x7d", Piece.lineSource line, "\x7b% endfor %\x7d"]

/-- The lines that a stretch makes for an entity and the names of its fields. -/
def made (entity : Entity) (names : List String) : Stretch → List String
  | once lines => Piece.lines entity.filledIn lines
  | eachField line => names.map fun name => String.join (line.map (Piece.fill fun _ => name))

end Stretch

namespace Library

/-- The line that stores the value of a field in a new item. -/
def storePieces : List Piece :=
  [.text "        item.", .name "field.name", .text " = request.form.get('", .name "field.name",
    .text "')"]

/-- The line that replaces the value of a field in an item. -/
def updatePieces : List Piece :=
  [.text "        item.", .name "field.name", .text " = request.form.get('", .name "field.name",
    .text "', item.", .name "field.name", .text ")"]

/-- The stretches of the template of controllers. -/
def controllerStretches : List Stretch :=
  [.once controllerHead, .eachField storePieces, .once controllerMiddle, .eachField updatePieces,
    .once controllerTail]

/-- The lines of the template outside of its loops, from one loop to the next. -/
def fixedStretches : List (List (List Piece)) := [controllerHead, controllerMiddle, controllerTail]

/-- The source of the template of controllers consists of a comment and its stretches. -/
theorem controller_eq :
    controller = "\x7b#- Flask controller rendered by `oryum make-controller` -#\x7d" ::
      controllerStretches.flatMap Stretch.source := by
  decide +kernel

end Library

end Template

/-! ## Lines that begin with a mark -/

namespace Code

/-- Whether a line begins with a mark. -/
def opens (mark line : String) : Bool := mark.toList.isPrefixOf line.toList

/-- The lines of the method of a class that begins with the line `opening`, without this one. -/
def methodLines (opening : String) (lines : List String) : List String :=
  ((lines.dropWhile (· != opening)).drop 1).takeWhile fun line => !opens "    def " line

/-- Whether a line gives an attribute of the item a value. -/
def setsAttribute (line : String) : Bool := opens "        item." line

theorem opens_iff {mark line : String} : opens mark line = true ↔ mark.toList <+: line.toList :=
  List.isPrefixOf_iff_prefix

theorem ne_of_not_opens {mark line : String} (h : opens mark line = false) : line ≠ mark := by
  rintro rfl
  rw [← Bool.not_eq_true, opens_iff] at h
  exact h List.prefix_rfl

/-- A method ends where the next one begins. -/
theorem methodLines_append {opening : String} {before body after : List String}
    (hbefore : ∀ line ∈ before, line ≠ opening)
    (hbody : ∀ line ∈ body, opens "    def " line = false)
    (hafter : ∀ line ∈ after.head?, opens "    def " line = true) :
    methodLines opening (before ++ opening :: (body ++ after)) = body := by
  have hpast : (before ++ opening :: (body ++ after)).dropWhile (· != opening) =
      opening :: (body ++ after) := by
    rw [List.dropWhile_append_of_pos (by simpa using hbefore)]
    exact List.dropWhile_cons_of_neg (by simp)
  have hstop : after.takeWhile (fun line => !opens "    def " line) = [] := by
    cases after with
    | nil => rfl
    | cons line after => exact List.takeWhile_cons_of_neg (by simp [hafter line rfl])
  rw [methodLines, hpast, List.drop_one, List.tail_cons,
    List.takeWhile_append_of_pos (by simpa using hbody), hstop, List.append_nil]

end Code

open Code

/-- Lines of which none may begin with a mark. -/
theorem Template.Piece.not_opens {value : String → String} {mark : String} {ls : List (List Piece)}
    (h : ls.all (!mayOpen mark ·) = true) : ∀ line ∈ lines value ls, opens mark line = false := by
  intro line hl
  rw [← Bool.not_eq_true, opens_iff]
  intro hp
  have hnone : ls.filter (mayOpen mark) = [] := by
    rw [List.filter_eq_nil_iff]
    simpa using h
  have hm := mem_lines_filter hl hp
  rw [hnone] at hm
  cases hm

namespace Request

open Template Template.Library

/-! ## The lines of a controller -/

theorem storeLine_eq (field : Field) :
    String.join (storePieces.map (Piece.fill fun _ => field.name)) = field.storeLine := by
  rfl

theorem updateLine_eq (field : Field) :
    String.join (updatePieces.map (Piece.fill fun _ => field.name)) = field.updateLine := by
  rfl

/-- A controller consists of what the stretches of the template make. -/
theorem controllerLines_eq (request : Request) :
    request.controllerLines =
      controllerStretches.flatMap
        (Stretch.made request.entity (request.fields.map Field.name)) := by
  simp [controllerLines, controllerStretches, Stretch.made, Function.comp_def, storeLine_eq,
    updateLine_eq]

/-! ### The lines for the fields -/

section Lines

variable {value : String → String} {ls : List (List Piece)}

/-- A line for every field that gives an attribute of the item a value. -/
def IsFieldLine (line : Field → String) : Prop :=
  ∀ field, "        item.".toList <+: (line field).toList

theorem isFieldLine_storeLine : IsFieldLine Field.storeLine := by
  intro field
  rw [Field.storeLine, String.join_cons, String.toList_append]
  exact List.prefix_append _ _

theorem isFieldLine_updateLine : IsFieldLine Field.updateLine := by
  intro field
  rw [Field.updateLine, String.join_cons, String.toList_append]
  exact List.prefix_append _ _

variable {line : Field → String} (fields : List Field)

theorem IsFieldLine.filter (h : IsFieldLine line) :
    (fields.map line).filter setsAttribute = fields.map line :=
  List.filter_eq_self.2 (List.forall_mem_map.2 fun field _ => opens_iff.2 (h field))

theorem IsFieldLine.filter_not (h : IsFieldLine line) :
    (fields.map line).filter (!setsAttribute ·) = [] :=
  List.filter_eq_nil_iff.2 (List.forall_mem_map.2 fun field _ => by
    simp [setsAttribute, opens_iff.2 (h field)])

/-- A line for a field does not begin a method. -/
theorem IsFieldLine.not_opens (h : IsFieldLine line) :
    ∀ l ∈ fields.map line, opens "    def " l = false := by
  refine List.forall_mem_map.2 fun field _ => ?_
  rw [← Bool.not_eq_true, opens_iff]
  intro hp
  have hmarks := List.prefix_or_prefix_of_prefix hp (h field)
  simp at hmarks

/-- A method with a line for every field ends where the next one begins. -/
theorem IsFieldLine.methodLines (h : IsFieldLine line) {before after : List String}
    {opening next : String} {head tail : List (List Piece)}
    (hbefore : ∀ l ∈ before, l ≠ opening) (hhead : head.all (!Piece.mayOpen "    def " ·) = true)
    (htail : tail.all (!Piece.mayOpen "    def " ·) = true)
    (hnext : opens "    def " next = true) :
    methodLines opening
        (before ++ opening :: ((Piece.lines value head ++ fields.map line ++ Piece.lines value tail)
          ++ next :: after)) =
      Piece.lines value head ++ fields.map line ++ Piece.lines value tail := by
  refine methodLines_append hbefore ?_ ?_
  · simp only [List.forall_mem_append]
    exact ⟨⟨Piece.not_opens hhead, h.not_opens fields⟩, Piece.not_opens htail⟩
  · rintro _ ⟨⟩
    exact hnext

/-- No line outside of the loops gives an attribute of the item a value. -/
theorem not_setsAttribute {stretch : List (List Piece)}
    (hstretch : stretch ∈ fixedStretches) (hls : ls ⊆ stretch) :
    ∀ line ∈ Piece.lines value ls, setsAttribute line = false := by
  have hnone : ∀ stretch ∈ fixedStretches,
      ∀ pieces ∈ stretch, Piece.mayOpen "        item." pieces = false := by
    decide +kernel
  refine Piece.not_opens (List.all_eq_true.2 fun pieces hp => ?_)
  rw [hnone stretch hstretch pieces (hls hp)]
  rfl

theorem filter_lines {stretch : List (List Piece)}
    (hstretch : stretch ∈ fixedStretches) (hls : ls ⊆ stretch) :
    (Piece.lines value ls).filter setsAttribute = [] :=
  List.filter_eq_nil_iff.2 fun line hl => by simp [not_setsAttribute hstretch hls line hl]

/-- The lines for the fields are the ones of a method that give an attribute of the item a value. -/
theorem IsFieldLine.filter_method (h : IsFieldLine line) {head tail ls' : List (List Piece)}
    (hhead : head ∈ fixedStretches) (hls : ls ⊆ head)
    (htail : tail ∈ fixedStretches) (hls' : ls' ⊆ tail) :
    (Piece.lines value ls ++ fields.map line ++ Piece.lines value ls').filter setsAttribute =
      fields.map line := by
  rw [List.filter_append, List.filter_append, filter_lines hhead hls, filter_lines htail hls',
    h.filter, List.nil_append, List.append_nil]

theorem filter_not_lines {stretch : List (List Piece)}
    (hstretch : stretch ∈ fixedStretches) :
    (Piece.lines value stretch).filter (!setsAttribute ·) = Piece.lines value stretch :=
  List.filter_eq_self.2 fun line hl => by
    simp [not_setsAttribute hstretch (List.Subset.refl _) line hl]

end Lines

/-! ### Methods -/

section Methods

variable (request : Request)

theorem lines_take_drop (value : String → String) (n : Nat) (ls : List (List Piece)) :
    Piece.lines value ls = Piece.lines value (ls.take n) ++ Piece.lines value (ls.drop n) := by
  rw [Piece.lines, Piece.lines, Piece.lines, ← List.map_append, List.take_append_drop]

/-- The method that stores a new item lies across the first loop over the fields. -/
theorem methodLines_store :
    methodLines "    def store():" request.controllerLines =
      Piece.lines request.entity.filledIn (controllerHead.drop 17)
        ++ request.fields.map Field.storeLine
        ++ Piece.lines request.entity.filledIn (controllerMiddle.take 10) := by
  have hopening : Piece.lines request.entity.filledIn (controllerHead.drop 16) =
      "    def store():" :: Piece.lines request.entity.filledIn (controllerHead.drop 17) := rfl
  have hnext : Piece.lines request.entity.filledIn (controllerMiddle.drop 10) =
      "    def show(id):" :: Piece.lines request.entity.filledIn (controllerMiddle.drop 11) := rfl
  have hlines : request.controllerLines =
      Piece.lines request.entity.filledIn (controllerHead.take 16) ++ "    def store():" ::
        ((Piece.lines request.entity.filledIn (controllerHead.drop 17)
            ++ request.fields.map Field.storeLine
            ++ Piece.lines request.entity.filledIn (controllerMiddle.take 10))
          ++ "    def show(id):" :: (Piece.lines request.entity.filledIn (controllerMiddle.drop 11)
            ++ request.fields.map Field.updateLine
            ++ Piece.lines request.entity.filledIn controllerTail)) := by
    rw [controllerLines, lines_take_drop _ 16 controllerHead, hopening,
      lines_take_drop _ 10 controllerMiddle, hnext]
    simp only [List.append_assoc, List.cons_append]
  rw [hlines]
  refine isFieldLine_storeLine.methodLines _ (fun line hl => ?_) (by decide +kernel)
    (by decide +kernel) (by decide)
  exact ne_of_not_opens (Piece.not_opens (by decide +kernel) line hl)

/-- The method that changes an item lies across the second loop over the fields. -/
theorem methodLines_update :
    methodLines "    def update(id):" request.controllerLines =
      Piece.lines request.entity.filledIn (controllerMiddle.drop 21)
        ++ request.fields.map Field.updateLine
        ++ Piece.lines request.entity.filledIn (controllerTail.take 9) := by
  have hopening : Piece.lines request.entity.filledIn (controllerMiddle.drop 20) =
      "    def update(id):" :: Piece.lines request.entity.filledIn (controllerMiddle.drop 21) := rfl
  have hnext : Piece.lines request.entity.filledIn (controllerTail.drop 9) =
      "    def destroy(id):" :: Piece.lines request.entity.filledIn (controllerTail.drop 10) := rfl
  have hlines : request.controllerLines =
      (Piece.lines request.entity.filledIn controllerHead
          ++ request.fields.map Field.storeLine
          ++ Piece.lines request.entity.filledIn (controllerMiddle.take 20))
        ++ "    def update(id):" ::
        ((Piece.lines request.entity.filledIn (controllerMiddle.drop 21)
            ++ request.fields.map Field.updateLine
            ++ Piece.lines request.entity.filledIn (controllerTail.take 9))
          ++ "    def destroy(id):" ::
            Piece.lines request.entity.filledIn (controllerTail.drop 10)) := by
    rw [controllerLines, lines_take_drop _ 20 controllerMiddle, hopening,
      lines_take_drop _ 9 controllerTail, hnext]
    simp only [List.append_assoc, List.cons_append]
  rw [hlines]
  refine isFieldLine_updateLine.methodLines _ ?_ (by decide +kernel) (by decide +kernel) (by decide)
  simp only [List.forall_mem_append]
  refine ⟨⟨fun line hl => ?_, fun line hl => ?_⟩, fun line hl => ?_⟩
  · exact ne_of_not_opens (Piece.not_opens (by decide +kernel) line hl)
  · rintro rfl
    exact absurd (isFieldLine_storeLine.not_opens _ _ hl) (by decide)
  · exact ne_of_not_opens (Piece.not_opens (by decide +kernel) line hl)

end Methods

/-- The names of the entity and of the fields determine what the stretches make. -/
theorem controllerLines_congr {request request' : Request}
    (hentity : request.entity = request'.entity)
    (hnames : request.fields.map Field.name = request'.fields.map Field.name) :
    request.controllerLines = request'.controllerLines := by
  rw [controllerLines_eq, controllerLines_eq, hentity, hnames]

/-- **A controller reads the names.** Two requests for one entity whose fields have the same names
in the same order make the very same controller from the template of the library, whatever else
differs between them. The lines of a controller are what the stretches of the template make when
the names are filled in. The method that stores an item has one line for each field, in order, and
so has the method that changes one; without these lines a controller is the one that is made
without fields. -/
theorem generate_controller_reads {request request' : Request}
    (hentity : request.entity = request'.entity)
    (hnames : request.fields.map Field.name = request'.fields.map Field.name) :
    (∃ artifact, request.Generates .controller artifact ∧
      request'.Generates .controller artifact) ∧
    controller = "\x7b#- Flask controller rendered by `oryum make-controller` -#\x7d" ::
      controllerStretches.flatMap Stretch.source ∧
    ∃ lines : List String,
      request.Generates .controller (request.artifact .controller (ofLines lines)) ∧
      lines = controllerStretches.flatMap
        (Stretch.made request.entity (request.fields.map Field.name)) ∧
      (methodLines "    def store():" lines).filter setsAttribute =
        request.fields.map Field.storeLine ∧
      (methodLines "    def update(id):" lines).filter setsAttribute =
        request.fields.map Field.updateLine ∧
      lines.filter setsAttribute =
        request.fields.map Field.storeLine ++ request.fields.map Field.updateLine ∧
      lines.filter (!setsAttribute ·) =
        controllerStretches.flatMap (Stretch.made request.entity []) := by
  have hhead : controllerHead ∈ fixedStretches := by simp [fixedStretches]
  have hmiddle : controllerMiddle ∈ fixedStretches := by simp [fixedStretches]
  have htail : controllerTail ∈ fixedStretches := by simp [fixedStretches]
  have hstore := @isFieldLine_storeLine
  have hupdate := @isFieldLine_updateLine
  refine ⟨⟨_, request.generates_artifact .controller, ?_⟩, controller_eq, request.controllerLines,
    request.generates_artifact .controller, controllerLines_eq request, ?_, ?_, ?_, ?_⟩
  · -- the paths and the registration are those of the entity
    have hartifact : request.artifact .controller (request.content .controller) =
        request'.artifact .controller (request'.content .controller) := by
      simp only [artifact, content, hentity, controllerLines_congr hentity hnames]
    rw [hartifact]
    exact request'.generates_artifact .controller
  · rw [methodLines_store]
    exact hstore.filter_method _ hhead (List.drop_subset _ _) hmiddle (List.take_subset _ _)
  · rw [methodLines_update]
    exact hupdate.filter_method _ hmiddle (List.drop_subset _ _) htail (List.take_subset _ _)
  · simp only [controllerLines, List.filter_append, filter_lines hhead (List.Subset.refl _),
      filter_lines hmiddle (List.Subset.refl _), filter_lines htail (List.Subset.refl _),
      hstore.filter, hupdate.filter, List.nil_append, List.append_nil]
  · simp only [controllerLines, List.filter_append, filter_not_lines hhead,
      filter_not_lines hmiddle, filter_not_lines htail, hstore.filter_not, hupdate.filter_not]
    simp [controllerStretches, Stretch.made]

/-- A request with two plain fields. -/
def plainItem : Request :=
  ⟨⟨"Item", "item"⟩, [⟨"nome", .string, {}⟩, ⟨"preco", .float, {}⟩], [], false⟩

/-- A request for the same entity with fields of the same names and with much else. -/
def adornedItem : Request :=
  ⟨⟨"Item", "item"⟩,
    [⟨"nome", .text, { nullable := true, default := some .implicit }⟩,
      ⟨"preco", .decimal, { unique := true, index := true, default := some (.number "0.5") }⟩],
    [⟨"fornecedor", "Fornecedor", .one⟩], true⟩

/-- Types, modifiers, relationships and timestamps do not show in a controller. -/
theorem generate_controller_reads_item :
    plainItem ≠ adornedItem ∧ plainItem.entity = adornedItem.entity ∧
      plainItem.fields.map Field.name = adornedItem.fields.map Field.name ∧
      ∃ artifact, plainItem.Generates .controller artifact ∧
        adornedItem.Generates .controller artifact := by
  have hentity : plainItem.entity = adornedItem.entity := rfl
  have hnames : plainItem.fields.map Field.name = adornedItem.fields.map Field.name := rfl
  exact ⟨by decide, hentity, hnames, (generate_controller_reads hentity hnames).1⟩

end Request

end Groundwork
