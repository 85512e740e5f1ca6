import Groundwork.Proofs.Command.Outcomes
import Groundwork.Proofs.Settings.Layers
import Groundwork.Proofs.Template.Overrides
import Groundwork.Proofs.Template.Project

/-!
# Registrations accumulate

Commands that make artifacts follow one another in one project without links, some of them failing.
Then each aggregator ends as its bytes at the beginning, a line feed if they leave a line open, and
the lines of the artifacts made, in order, save those that it held already; no line is added twice;
every file made still holds what was generated for it; and a file stem that has been used is not
used again (`registrations_accumulate`).

A turn registers the line of its artifact, if it makes one (`Turn.bytesAt_after`). So in the course
of the commands an aggregator registers the lines of the artifacts one by one (`Course.bytesAt`),
and since a file once made takes its file stem (`Course.fails_of_taken`), these lines are different
(`Course.nodup_registrations`). That every turn is in the project is a matter of the files at the
beginning if all commands are run from one directory, and if no marker file on the way from there to
the root is a link that leads to nothing (`settled_of_locate`, `proper_of_settled`). Such a link can
lead to the file of an artifact later, and the commands after that are in another project
(`registrations_astray`).
-/

namespace Groundwork

open Text Workspace

namespace Make

variable {root : Path} {here : Location}

/-! ## Lines -/

/-- The lines that register the artifacts of a kind that some turns make. -/
def registrations (kind : ArtifactKind) (turns : List Turn) : List String :=
  (turns.filter (·.make.kind = kind)).filterMap fun turn => turn.artifact?.map (·.registration)

theorem registrations_cons (kind : ArtifactKind) (turn : Turn) (turns : List Turn) :
    registrations kind (turn :: turns) = registrations kind [turn] ++ registrations kind turns := by
  by_cases hk : turn.make.kind = kind
  · cases ha : turn.artifact? <;> simp [registrations, hk, ha]
  · simp [registrations, hk]

theorem mem_registrations {kind : ArtifactKind} {turns : List Turn} {line : String}
    (h : line ∈ registrations kind turns) :
    ∃ turn ∈ turns, turn.make.kind = kind ∧
      ∃ artifact, turn.artifact? = some artifact ∧ artifact.registration = line := by
  obtain ⟨turn, hm, ha⟩ := List.mem_filterMap.1 h
  obtain ⟨hm, hk⟩ := List.mem_filter.1 hm
  exact ⟨turn, hm, by simpa using hk, Option.map_eq_some_iff.1 ha⟩

/-- An aggregator registers the line of the artifact that is made, if it is of its kind. -/
theorem Turn.bytesAt_after {turn : Turn} (hp : Plain turn.before.files root here)
    (h : turn.Proper root) (kind : ArtifactKind) :
    turn.after.files.bytesAt (kind.place here ArtifactKind.aggregatorName) =
      (registrations kind [turn]).foldl Aggregator.registered
        (turn.before.files.bytesAt (kind.place here ArtifactKind.aggregatorName)) := by
  obtain hf | ⟨entity, artifact, -, hmade, -, -, hg, -⟩ := turn.fails_or_gains hp h
  · rw [hf.files]
    by_cases hk : turn.make.kind = kind <;> simp [registrations, hk, hf.artifact?]
  · by_cases hk : turn.make.kind = kind
    · subst hk
      simp [registrations, hmade, hg.aggregator]
    · simp [registrations, hk, hg.bytesAt_other (Ne.symm hk)]

/-- The artifact that a turn makes is that of the entity that it names. -/
theorem Turn.entity_of_artifact {turn : Turn} {artifact : Artifact}
    (hp : Plain turn.before.files root here) (h : turn.Proper root)
    (ha : turn.artifact? = some artifact) :
    ∃ entity, Entity.parse turn.make.name = .ok entity ∧
      artifact.registration = turn.make.kind.registration entity := by
  obtain hf | ⟨entity, artifact', hentity, hmade, -, hreg, -, -⟩ := turn.fails_or_gains hp h
  · rw [hf.artifact?] at ha
    cases ha
  · obtain rfl := Option.some.inj (hmade.symm.trans ha)
    exact ⟨entity, hentity, hreg⟩

/-! ## Courses -/

namespace Course

variable {w w' : Workspace} {turns : List Turn}

theorem keeps_file (hc : Course root here w turns w') {location : Location} {bytes : List UInt8}
    (hf : w.files.entry? location = some (.file bytes))
    (ha : ∀ kind : ArtifactKind, location ≠ kind.place here ArtifactKind.aggregatorName) :
    w'.files.entry? location = some (.file bytes) := by
  induction hc with
  | done => exact hf
  | step hp h _ ih => exact ih (Turn.keeps_file hp h hf ha)

/-- In the course of the commands an aggregator registers the lines of the artifacts of its kind
one by one. -/
theorem bytesAt (hc : Course root here w turns w') (kind : ArtifactKind) :
    w'.files.bytesAt (kind.place here ArtifactKind.aggregatorName) =
      (registrations kind turns).foldl Aggregator.registered
        (w.files.bytesAt (kind.place here ArtifactKind.aggregatorName)) := by
  induction hc with
  | done => rfl
  | step hp h _ ih =>
    rw [registrations_cons, List.foldl_append, ← Turn.bytesAt_after hp h kind]
    exact ih

/-- No command succeeds for a file stem that has a file already. -/
theorem fails_of_taken (hc : Course root here w turns w') {kind : ArtifactKind} {entity : Entity}
    (hn : entity.WellNamed) {bytes : List UInt8}
    (hf : w.files.entry? (kind.place here (kind.fileName entity)) = some (.file bytes)) :
    ∀ turn ∈ turns, turn.make.kind = kind → ∀ entity',
      Entity.parse turn.make.name = .ok entity' → entity'.fileStem = entity.fileStem →
        turn.Fails := by
  induction hc with
  | done => simp
  | @step turn turns w' hp h rest ih =>
    have hkept := Turn.keeps_file hp h hf (ArtifactKind.place_ne_aggregator hn)
    refine List.forall_mem_cons.2 ⟨?_, ih hkept⟩
    rintro rfl entity' hentity hs
    obtain hfails | ⟨entity'', artifact, hentity', -, -, -, hg, -⟩ := turn.fails_or_gains hp h
    · exact hfails
    · obtain rfl := Except.ok.inj (hentity.symm.trans hentity')
      have hfree := hg.free
      rw [ArtifactKind.fileName_inj.2 hs, hf] at hfree
      cases hfree

/-- A file stem that has been used is not used again. -/
theorem pairwise_fails (hc : Course root here w turns w') :
    turns.Pairwise fun turn later => turn.artifact? ≠ none →
      turn.make.kind = later.make.kind → ∀ entity entity',
        Entity.parse turn.make.name = .ok entity → Entity.parse later.make.name = .ok entity' →
          entity.fileStem = entity'.fileStem → later.Fails := by
  induction hc with
  | done => exact .nil
  | @step turn turns w' hp h rest ih =>
    refine List.pairwise_cons.2 ⟨?_, ih⟩
    intro later hm hmade hk entity entity' hentity hentity' hs
    obtain hfails | ⟨entity'', artifact, hentity'', -, -, -, hg, -⟩ := turn.fails_or_gains hp h
    · exact absurd hfails.artifact? hmade
    · obtain rfl := Except.ok.inj (hentity.symm.trans hentity'')
      have hn := Entity.wellNamed_of_parse hentity
      exact rest.fails_of_taken hn hg.target later hm hk.symm entity' hentity' hs.symm

theorem isLine_of_mem (hc : Course root here w turns w') (kind : ArtifactKind) :
    ∀ line ∈ registrations kind turns, Aggregator.IsLine line := by
  intro line hm
  obtain ⟨turn, hturn, -, artifact, ha, rfl⟩ := mem_registrations hm
  obtain ⟨hp, h⟩ := hc.of_mem turn hturn
  obtain ⟨entity, hentity, hreg⟩ := Turn.entity_of_artifact hp h ha
  rw [hreg]
  exact ArtifactKind.isLine_registration (Entity.wellNamed_of_parse hentity)

/-- The artifacts of a kind that are made have different lines. -/
theorem nodup_registrations (hc : Course root here w turns w') (kind : ArtifactKind) :
    (registrations kind turns).Nodup := by
  rw [registrations, List.Nodup, List.pairwise_filterMap]
  refine (hc.pairwise_fails.filter _).imp_of_mem ?_
  intro turn later hturn hlater hfails line hline line' hline' heq
  obtain ⟨hturn, hk⟩ := List.mem_filter.1 hturn
  obtain ⟨hlater, hk'⟩ := List.mem_filter.1 hlater
  obtain ⟨artifact, ha, rfl⟩ := Option.map_eq_some_iff.1 hline
  obtain ⟨artifact', ha', rfl⟩ := Option.map_eq_some_iff.1 hline'
  obtain ⟨hp, h⟩ := hc.of_mem turn hturn
  obtain ⟨hp', h'⟩ := hc.of_mem later hlater
  obtain ⟨entity, hentity, hreg⟩ := Turn.entity_of_artifact hp h ha
  obtain ⟨entity', hentity', hreg'⟩ := Turn.entity_of_artifact hp' h' ha'
  have hkind : turn.make.kind = later.make.kind := by
    rw [of_decide_eq_true hk, of_decide_eq_true hk']
  rw [hreg, hreg', hkind] at heq
  have hs : entity.fileStem = entity'.fileStem :=
    ArtifactKind.fileStem_inj (Entity.wellNamed_of_parse hentity)
      (Entity.wellNamed_of_parse hentity') heq
  have hnone := (hfails (by simp [ha]) hkind entity entity' hentity hentity' hs).artifact?
  rw [ha'] at hnone
  cases hnone

/-- The files that are made hold what was generated for them until the end. -/
theorem read (hc : Course root here w turns w') :
    ∀ turn ∈ turns, ∀ artifact, turn.artifact? = some artifact →
      w'.files.read (root.join artifact.path) = .ok (encode artifact.content) := by
  induction hc with
  | done => simp
  | @step turn turns w' hp h rest ih =>
    refine List.forall_mem_cons.2 ⟨fun artifact ha => ?_, ih⟩
    obtain hf | ⟨entity, artifact', hentity, hmade, hpath, -, hg, -⟩ := turn.fails_or_gains hp h
    · rw [hf.artifact?] at ha
      cases ha
    · obtain rfl := Option.some.inj (hmade.symm.trans ha)
      have hn := Entity.wellNamed_of_parse hentity
      have hfile := rest.keeps_file hg.target (ArtifactKind.place_ne_aggregator hn)
      exact rest.plain_end.read hn hpath hg.short hfile

end Course

variable {w : Workspace} {start : Path} {commands : List (Make × Setting)}

/-- **Registrations accumulate exactly.** In a project without links commands are run one after the
other from one directory, and none fails because a file or directory cannot be read or written. The
directory is there, and no marker file that is looked for on the way from it to the root of the
project is a link that leads to nothing. Then

* each aggregator holds its bytes from the beginning and then the lines of the artifacts of its kind
  that were made and that it did not hold, in order and each once, after a line feed if the bytes
  are not empty and do not end with one;
* the file of every artifact that was made holds its text;
* a later command of the same kind for the same file stem has not succeeded and changed nothing. -/
theorem registrations_accumulate (hp : Plain w.files root here)
    (hstart : w.files.isDirectory start = true)
    (hroot : ((Project.locate start : Action (StateM Workspace) Path).run w).1 = .ok root)
    (hlinks : ∀ directory ∈ Project.way w.files start,
      ¬ w.files.Dangles (directory.join Project.marker))
    (hdirectory : ∀ command ∈ commands, command.2.directory = start)
    (hfile : ∀ turn ∈ turns w commands, ∀ message,
      turn.report.outcome ≠ .failure .file message) :
    (∀ kind : ArtifactKind,
      let bytes := w.files.bytesAt (kind.place here ArtifactKind.aggregatorName)
      let lines := Aggregator.missing bytes (registrations kind (turns w commands))
      (runAll w commands).files.bytesAt (kind.place here ArtifactKind.aggregatorName) =
          bytes ++ (if lines ≠ [] ∧ bytes.getLast?.any (· != 10) then [10] else []) ++
            (lines.flatMap fun line => encode line ++ [10]) ∧
        lines.Nodup) ∧
    (∀ turn ∈ turns w commands, ∀ artifact, turn.artifact? = some artifact →
      (runAll w commands).files.read (root.join artifact.path) = .ok (encode artifact.content)) ∧
    (turns w commands).Pairwise fun turn later => turn.artifact? ≠ none →
      turn.make.kind = later.make.kind → ∀ entity entity',
        Entity.parse turn.make.name = .ok entity → Entity.parse later.make.name = .ok entity' →
          entity.fileStem = entity'.fileStem → later.Fails := by
  have hsettled := settled_of_locate hstart hroot hlinks
  have hcourse := course_of_proper hp (proper_of_settled hp hsettled hdirectory hfile)
  refine ⟨fun kind => ?_, hcourse.read, hcourse.pairwise_fails⟩
  intro bytes lines
  have hnodup := hcourse.nodup_registrations kind
  have hbytes : (runAll w commands).files.bytesAt (kind.place here ArtifactKind.aggregatorName) =
      bytes ++ (if lines = [] then [] else Aggregator.gap bytes) ++ Aggregator.block lines := by
    rw [hcourse.bytesAt kind, Aggregator.foldl_registered (hcourse.isLine_of_mem kind) hnodup]
  refine ⟨?_, hnodup.filter _⟩
  rw [hbytes, Aggregator.gap, Aggregator.block]
  by_cases hl : lines = []
  · simp [hl]
  · simp [hl]

/-! ### In the shop -/

/-- Two commands that make a new model each, and between them one for a name that cannot be read,
one for a file stem that has just been used, one that makes a controller, and one for the model that
is there. -/
def shopMakes : List Make :=
  [{ kind := .model, name := "Cliente" }, { kind := .model, name := "1x" },
    { kind := .model, name := "cliente" }, { kind := .controller, name := "Cliente" },
    { kind := .model, name := "Produto" }, { kind := .model, name := "Pedido" }]

/-- The commands, run from the directory of models. -/
def shopCommands : List (Make × Setting) :=
  shopMakes.map fun make => (make, ⟨⟨"/models"⟩, .english⟩)

theorem isOf_shop : Stock.IsOf [(.model, "produto.py")] [] shop where
  there kind name h := by
    obtain ⟨rfl, rfl⟩ := Prod.mk.inj (List.mem_singleton.1 h)
    exact ⟨by decide, _, rfl⟩
  free kind name h ha := by
    refine Option.eq_none_iff_forall_ne_some.2 fun entry he => ?_
    have hmem := mem_of_lookup he
    cases kind with
    | model =>
      have hproduto : name ≠ "produto.py" := fun hname => h (by simp [hname])
      simp [shop, ArtifactKind.directory, hproduto] at hmem
      exact ha hmem.1
    | controller => simp [shop, ArtifactKind.directory] at hmem

theorem sound_shop : ∀ make ∈ shopMakes, make.Sound ⟨"/"⟩ {} := by
  have hshort : ∀ make ∈ shopMakes, make.fields = none ∧ make.relationships = none ∧
      ∀ entity ∈ (Entity.parse make.name).toOption,
        byteLength (make.kind.path entity).text ≤ 100 := by decide +kernel
  intro make hm entity hentity
  obtain ⟨hfields, hrelationships, hpath⟩ := hshort make hm
  have hfits : make.kind.Fits ⟨"/"⟩ entity :=
    ArtifactKind.fits_of_short (by decide) (hpath entity (by simp [hentity, Except.toOption]))
  refine ⟨hfits, ⟨entity, [], [], make.timestamps.getD true⟩, rfl, hentity, ?_, ?_, rfl⟩
  · rw [hfields]
    rfl
  · rw [hrelationships]
    rfl

/-- What the commands register, in turn. -/
theorem answers_shop : Stock.answers [(.model, "produto.py")] shopMakes =
    [(.model, some "from .cliente import Cliente"), (.model, none), (.model, none),
      (.controller, some "from .cliente_controller import ClienteController"), (.model, none),
      (.model, some "from .pedido import Pedido")] := by
  decide +kernel

theorem registrations_eq (kind : ArtifactKind) (turns : List Turn) :
    registrations kind turns =
      ((turns.map fun turn => (turn.make.kind, turn.artifact?.map (·.registration))).filter
        (·.1 = kind)).filterMap (·.2) := by
  simp [registrations, List.filter_map, List.filterMap_map, Function.comp_def]

/-- The two new models are registered after the line that was open, and so is the controller. -/
theorem registrations_accumulate_shop :
    Plain shop ⟨"/"⟩ [] ∧ shop.isDirectory ⟨"/models"⟩ = true ∧
      ((Project.locate ⟨"/models"⟩ : Action (StateM Workspace) Path).run ⟨shop, []⟩).1 =
        .ok ⟨"/"⟩ ∧
      (turns ⟨shop, []⟩ shopCommands).map (·.artifact?.map (·.registration)) =
        [some "from .cliente import Cliente", none, none,
          some "from .cliente_controller import ClienteController", none,
          some "from .pedido import Pedido"] ∧
      (runAll ⟨shop, []⟩ shopCommands).files.bytesAt ["__init__.py", "models"] =
        [0xFF, 0x41, 10] ++ encode "from .cliente import Cliente\nfrom .pedido import Pedido\n" ∧
      (runAll ⟨shop, []⟩ shopCommands).files.bytesAt ["__init__.py", "controllers"] =
        encode "from .cliente_controller import ClienteController\n" := by
  have hdirectory : ∀ command ∈ shopCommands, command.2.directory = ⟨"/models"⟩ := by
    simp [shopCommands]
  have hsound : ∀ command ∈ shopCommands, command.1.Sound ⟨"/"⟩ {} := by
    rw [shopCommands, List.forall_mem_map]
    exact sound_shop
  obtain ⟨hproper, hanswers⟩ :=
    answers_turns (w := ⟨shop, []⟩) shop.steady rfl isOf_shop hdirectory hsound
  have hstart : shop.isDirectory ⟨"/models"⟩ = true :=
    FileTree.isDirectory_in_root (by decide) (ArtifactKind.isName_directory .model) (by decide) rfl
  have hroot := locate_of_settled (w := ⟨shop, []⟩) shop.steady.settled
  have hmissing := unmarked_of_missing shop.reaches_models rfl
  have hway : Project.way shop ⟨"/models"⟩ = [⟨"/models"⟩] := by
    have hsplit : (⟨"/models"⟩ : Path).ancestors = [⟨"/models"⟩] ++ ⟨"/"⟩ :: [] := by decide
    exact way_eq hsplit (by simpa using hmissing.isMarked) shop.steady.settled.isMarked
  have hlinks : ∀ directory ∈ Project.way shop ⟨"/models"⟩,
      ¬ shop.Dangles (directory.join Project.marker) := by
    rw [hway, List.forall_mem_singleton]
    exact not_dangles_of_missing shop.reaches_models rfl
  obtain ⟨haggregators, -, -⟩ := registrations_accumulate (w := ⟨shop, []⟩) shop.plain hstart hroot
    hlinks hdirectory fun turn hm => (hproper turn hm).noFile
  have hmakes : shopCommands.map (·.1) = shopMakes := by
    rw [shopCommands, List.map_map]
    exact List.map_id _
  rw [hmakes, answers_shop] at hanswers
  have hlines := congrArg (·.map (·.2)) hanswers
  simp only [List.map_map, Function.comp_def] at hlines
  have hmodels := (haggregators .model).1
  have hcontrollers := (haggregators .controller).1
  rw [registrations_eq, hanswers] at hmodels hcontrollers
  exact ⟨shop.plain, hstart, hroot, hlines.trans rfl, hmodels.trans (by decide +kernel),
    hcontrollers.trans (by decide +kernel)⟩

/-! ### A project that another one comes before -/

/-- The text of a marker file that names a directory of templates. -/
def templatesMarker : String := "\x7b\"generator\":\x7b\"templates_dir\":\"tpl\"\x7d\x7d"

/-- The settings that it gives. -/
def templatesSettings : Settings := { generator := { templates := some ⟨"tpl"⟩ } }

/-- A project in the root directory whose template of models is empty. In one of its directories a
link by the name of the marker file leads to a model that is missing. -/
def astray : FileTree :=
  ⟨[(["oryum.json", "sub"], .link ⟨"../models/produto.py"⟩), (["sub"], .directory),
    (["model.py.jinja2", "snippets", "tpl"], .file []), (["snippets", "tpl"], .directory),
    (["tpl"], .directory), (["oryum.json"], .file (encode templatesMarker))]⟩

/-- The command that makes the model of products in that directory. -/
def makeBeside : Make × Setting := (makeProduct.1, ⟨⟨"/sub"⟩, .english⟩)

theorem ofText?_templatesMarker : Settings.ofText? templatesMarker = some templatesSettings := by
  have hdocument : Json.IsDocument templatesMarker.toList
      (.object [("generator", .object [("templates_dir", .text "tpl")])]) := by
    have hderives : Json.Derives (126 + 1) (.value
        (.object [("generator", .object [("templates_dir", .text "tpl")])])) _ :=
      .object (.lastMember "generator"
        (.object (.lastMember "templates_dir" (.scalar (.text "tpl")))))
    refine ⟨_, hderives, ?_⟩
    exact .token .openObject <| .text "generator" <| .token .colon <| .token .openObject <|
      .text "templates_dir" <| .token .colon <| .text "tpl" <| .token .closeObject <|
      .token .closeObject .nil
  rw [Settings.ofText?_of_document hdocument]
  decide

namespace astray

theorem plain : Plain astray ⟨"/"⟩ [] where
  rooted := FileTree.rooted_of_entries (by decide)
  reaches := ⟨_, FileTree.reaches_root astray⟩
  directory kind := .inl (by cases kind <;> decide)
  aggregator kind := .inl (by cases kind <;> decide)

/-! The first command makes the model in the root directory. -/

theorem read_template :
    astray.read (((⟨"/"⟩ : Path).join ⟨"tpl"⟩).join ⟨ArtifactKind.model.templateName⟩) =
      .ok [] := by
  have hroot : (⟨"/"⟩ : Path).join ⟨"tpl"⟩ = ⟨"/tpl"⟩ := by decide
  have hpath : ⟨ArtifactKind.model.templateName⟩ = Path.pair "snippets" "model.py.jinja2" := by
    decide
  have hreaches : astray.Reaches ⟨"/tpl"⟩ FileTree.linkLimit ["tpl"] :=
    FileTree.reaches_of_steps (by decide) (by decide) (by decide) (by decide) rfl
  rw [hroot, hpath]
  exact FileTree.read_pair hreaches (by decide) (by decide) (by decide) rfl
    (FileTree.short_join (by decide) (by decide) (by decide)) (by decide) rfl

/-- The way from the directory below: its marker file leads to the model. -/
theorem walk_marker {t : FileTree} (hsub : t.entry? ["sub"] = some .directory)
    (hlink : t.entry? ["oryum.json", "sub"] = some (.link ⟨"../models/produto.py"⟩)) :
    t.walk .look FileTree.linkLimit [] ((⟨"/sub"⟩ : Path).join Project.marker).steps false =
      t.walk .look 39 [] ["models", "produto.py"] false := by
  have hsteps : ((⟨"/sub"⟩ : Path).join Project.marker).steps = ["sub", "oryum.json"] := by decide
  have htarget : (⟨"../models/produto.py"⟩ : Path).steps = ["..", "models", "produto.py"] := by
    decide
  have hslash : (⟨"../models/produto.py"⟩ : Path).endsWithSlash = false := by decide
  have habsolute : (⟨"../models/produto.py"⟩ : Path).isAbsolute = false := by decide
  rw [hsteps, FileTree.walk_cons (by decide) (by decide) (by decide) (by decide), hsub]
  simp only [List.isEmpty_cons, Bool.false_eq_true, if_false]
  rw [FileTree.walk_cons (by decide) (by decide) (by decide) (by decide), hlink]
  simp [FileTree.Purpose.follows, FileTree.linkLimit, htarget, hslash, habsolute, FileTree.walk]

theorem located : ((Project.locate ⟨"/sub"⟩ : Action (StateM Workspace) Path).run ⟨astray, []⟩).1 =
    .ok ⟨"/"⟩ := by
  have hancestors : (⟨"/sub"⟩ : Path).ancestors = [⟨"/sub"⟩, ⟨"/"⟩] := by decide
  have hbelow : Project.isMarked astray ⟨"/sub"⟩ = false := by
    have hwalk := walk_marker (t := astray) rfl rfl
    rw [FileTree.walk_cons (by decide) (by decide) (by decide) (by decide)] at hwalk
    exact isMarked_of_walk hwalk
  have hroot : Project.isMarked astray ⟨"/"⟩ = true :=
    isMarked_of_file (FileTree.reaches_root astray) rfl (short_marker (by decide))
  rw [run_locate, hancestors, List.find?_cons_of_neg (by simp [hbelow]),
    List.find?_cons_of_pos hroot]

theorem found : Project.Found ⟨"/sub"⟩ ⟨"/"⟩ templatesSettings astray where
  located := located
  marked := by
    have hread := FileTree.read_name (FileTree.reaches_root astray) isName_marker (by decide)
      (short_marker (by decide)) rfl
    exact ⟨_, templatesMarker, hread, decode?_encode _, ofText?_templatesMarker⟩

/-- The first turn of the command. -/
def first : Turn := ⟨makeBeside.1, makeBeside.2, ⟨astray, []⟩⟩

theorem prepared_first : first.make.prepared first.setting.directory first.before =
    .ok (⟨⟨"/"⟩, templatesSettings⟩, productRequest.artifact .model "") := by
  refine prepared_of_generate found ⟨spells_makeProduct.entity, rfl, rfl, rfl⟩ fun v hv => ?_
  have hread : v.files.read (((⟨"/"⟩ : Path).join ⟨"tpl"⟩).join ⟨ArtifactKind.model.templateName⟩) =
      .ok [] := by
    rw [hv]
    exact read_template
  have hdecode : decode? [] = some "" := by decide
  exact productRequest.generateIn_of_read rfl hread hdecode (Template.render_untagged (by decide))

theorem outcome_first : first.report.outcome = .success ⟨"/models/produto.py"⟩ := by
  have hpath : (⟨"/"⟩ : Path).join (ArtifactKind.path .model productRequest.entity) =
      ⟨"/models/produto.py"⟩ := by decide
  rw [← hpath]
  exact first.runs.success plain prepared_first spells_makeProduct.entity
    (ArtifactKind.fits_of_short (by decide) (by decide)) rfl

theorem proper_first : first.Proper ⟨"/"⟩ :=
  ⟨located, fun message ho => by rw [outcome_first] at ho; cases ho⟩

/-! The file that it makes is the marker file of a project in the directory below, and the second
command makes the model there. -/

/-- The second turn of the command. -/
def second : Turn := ⟨makeBeside.1, makeBeside.2, first.after⟩

theorem gains_first : Gains ⟨"/"⟩ [] .model productRequest.entity
    (productRequest.artifact .model "") astray second.before.files := by
  obtain hfails | ⟨entity, artifact, hentity, hmade, -, -, hgains, -⟩ :=
    first.fails_or_gains plain proper_first
  · exact absurd outcome_first (hfails.outcome _)
  · obtain rfl := Except.ok.inj (spells_makeProduct.entity.symm.trans hentity)
    obtain rfl := Option.some.inj
      ((Turn.artifact?_of_success outcome_first prepared_first).symm.trans hmade)
    exact hgains

theorem resolve_marker : second.before.files.resolve .look ((⟨"/sub"⟩ : Path).join Project.marker) =
    .ok ⟨["produto.py", "models"], some (.file []), false⟩ := by
  have htarget : second.before.files.entry? ["produto.py", "models"] = some (.file []) :=
    gains_first.target
  have hmodels : second.before.files.entry? ["models"] = some .directory := gains_first.directory
  have hsub := gains_first.others ["sub"] (by decide) (by decide) (by decide)
  have hlink := gains_first.others ["oryum.json", "sub"] (by decide) (by decide) (by decide)
  have hslash : ((⟨"/sub"⟩ : Path).join Project.marker).endsWithSlash = false := by decide
  refine FileTree.resolve_eq_ok_iff.2 ⟨by decide, by decide, short_marker (by decide), ?_⟩
  rw [hslash, walk_marker hsub hlink, FileTree.walk_pair (by decide) (by decide) hmodels,
    FileTree.walk_name (by decide) (by decide) (by simp [htarget]), htarget]

theorem found_below : Project.Found ⟨"/sub"⟩ ⟨"/sub"⟩ {} second.before.files where
  located := by
    have hmarked : Project.isMarked second.before.files ⟨"/sub"⟩ = true := by
      rw [Project.isMarked, FileTree.isFile, FileTree.find?, resolve_marker]
    rw [run_locate, Path.ancestors, List.find?_cons_of_pos hmarked]
  marked := ⟨[], "", by rw [FileTree.read, resolve_marker]; rfl, by decide, by decide⟩

theorem plain_below : Plain second.before.files ⟨"/sub"⟩ ["sub"] where
  rooted := (first.plain_after plain proper_first).rooted
  reaches := by
    have hsub := gains_first.others ["sub"] (by decide) (by decide) (by decide)
    exact ⟨_, FileTree.reaches_of_steps (by decide) (by decide) (by decide) (by decide) hsub⟩
  directory kind := by
    refine .inl ((gains_first.others _ ?_ ?_ ?_).trans ?_) <;> cases kind <;> decide
  aggregator kind := by
    refine .inl ((gains_first.others _ ?_ ?_ ?_).trans ?_) <;> cases kind <;> decide

theorem outcome_second : second.report.outcome = .success ⟨"/sub/models/produto.py"⟩ := by
  have hpath : (⟨"/sub"⟩ : Path).join (ArtifactKind.path .model productRequest.entity) =
      ⟨"/sub/models/produto.py"⟩ := by decide
  obtain ⟨content, hprepared⟩ : ∃ content,
      second.make.prepared second.setting.directory second.before =
        .ok (⟨⟨"/sub"⟩, {}⟩, productRequest.artifact .model content) :=
    exists_prepared found_below rfl spells_makeProduct
  rw [← hpath]
  exact second.runs.success plain_below hprepared spells_makeProduct.entity
    (ArtifactKind.fits_of_short (by decide) (by decide))
    ((gains_first.others _ (by decide) (by decide) (by decide)).trans (by decide))

end astray

/-- Without what is assumed of links the same command can succeed twice. The first model is the
marker file that the link in the directory has been waiting for, so that the second one is made in
another project. -/
theorem registrations_astray :
    Plain astray ⟨"/"⟩ [] ∧ astray.isDirectory ⟨"/sub"⟩ = true ∧
      ((Project.locate ⟨"/sub"⟩ : Action (StateM Workspace) Path).run ⟨astray, []⟩).1 =
        .ok ⟨"/"⟩ ∧
      (turns ⟨astray, []⟩ [makeBeside, makeBeside]).map (·.report.outcome) =
        [.success ⟨"/models/produto.py"⟩, .success ⟨"/sub/models/produto.py"⟩] := by
  have hname : Path.IsName "sub" := by decide
  have hdirectory : astray.isDirectory ⟨"/sub"⟩ = true :=
    FileTree.isDirectory_in_root (by decide) hname (by decide) rfl
  have houtcomes : [astray.first.report.outcome, astray.second.report.outcome] =
      [.success ⟨"/models/produto.py"⟩, .success ⟨"/sub/models/produto.py"⟩] := by
    rw [astray.outcome_first, astray.outcome_second]
  exact ⟨astray.plain, hdirectory, astray.located, houtcomes⟩

end Make

end Groundwork
