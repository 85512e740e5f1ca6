import Groundwork.Proofs.Command.Success
import Groundwork.Proofs.Command.Turns

/-!
# What commands in turn come to

In a project without links that stays the one found (`Project.Steady`) and takes its templates from
the library, what commands come to can be told beforehand: from the files of artifacts that are
there (`Stock.IsOf`) and from what the commands name (`Stock.answers`). A command for an entity that
cannot be read is refused, so is one whose file is there, and every other command makes its artifact
and adds its file (`Turn.answered`); by induction so do all of them (`answers_turns`).
-/

namespace Groundwork

open Text Workspace

/-! ## Stocks -/

/-- The files of artifacts that there are, by their kinds and names. -/
abbrev Stock := List (ArtifactKind × String)

namespace Stock

/-- The entity that a command makes an artifact of: the one that it names, if its file is not there
already. -/
def made? (stock : Stock) (make : Make) : Option Entity :=
  (Entity.parse make.name).toOption.filter fun entity =>
    (make.kind, make.kind.fileName entity) ∉ stock

/-- The stock after a command. -/
def after (stock : Stock) (make : Make) : Stock :=
  ((stock.made? make).map fun entity => (make.kind, make.kind.fileName entity)).toList ++ stock

/-- What some commands register, one after the other, by their kinds. -/
def answers : Stock → List Make → List (ArtifactKind × Option String)
  | _, [] => []
  | stock, make :: makes =>
    (make.kind, (stock.made? make).map make.kind.registration) :: answers (stock.after make) makes

/-- The stock of the project at `here`. -/
structure IsOf (stock : Stock) (here : Location) (t : FileTree) : Prop where
  /-- The files in stock are there, and none is an aggregator. -/
  there (kind : ArtifactKind) (name : String) (h : (kind, name) ∈ stock) :
    name ≠ ArtifactKind.aggregatorName ∧
      ∃ bytes, t.entry? (kind.place here name) = some (.file bytes)
  /-- There is nothing else but aggregators. -/
  free (kind : ArtifactKind) (name : String) (h : (kind, name) ∉ stock)
    (ha : name ≠ ArtifactKind.aggregatorName) : t.entry? (kind.place here name) = none

variable {stock : Stock} {root : Path} {here : Location} {t t' : FileTree} {make : Make}
  {entity : Entity} {artifact : Artifact}

theorem made?_of_error {cause : EntryError} (h : Entity.parse make.name = .error cause) :
    stock.made? make = none := by
  rw [made?, h]
  rfl

theorem made?_of_mem (h : Entity.parse make.name = .ok entity)
    (hm : (make.kind, make.kind.fileName entity) ∈ stock) : stock.made? make = none := by
  simp [made?, h, Except.toOption, hm]

theorem made?_of_not_mem (h : Entity.parse make.name = .ok entity)
    (hm : (make.kind, make.kind.fileName entity) ∉ stock) : stock.made? make = some entity := by
  simp [made?, h, Except.toOption, hm]

theorem after_of_none (h : stock.made? make = none) : stock.after make = stock := by
  rw [after, h]
  rfl

theorem after_of_some (h : stock.made? make = some entity) :
    stock.after make = (make.kind, make.kind.fileName entity) :: stock := by
  rw [after, h]
  rfl

/-- An artifact that is made adds its file. -/
theorem IsOf.of_gains {kind : ArtifactKind} (h : stock.IsOf here t) (hp : Plain t root here)
    (hw : entity.WellNamed) (hg : Gains root here kind entity artifact t t') :
    IsOf ((kind, kind.fileName entity) :: stock) here t' where
  there kind' name hm := by
    obtain he | hm := List.mem_cons.1 hm
    · obtain ⟨rfl, rfl⟩ := Prod.mk.inj he
      exact ⟨ArtifactKind.fileName_ne_aggregator hw, _, hg.target⟩
    · obtain ⟨hne, bytes, hfile⟩ := h.there kind' name hm
      exact ⟨hne, bytes, hg.file hp hfile fun he => hne (ArtifactKind.place_inj.1 he).2⟩
  free kind' name hm ha := by
    obtain ⟨hnew, hold⟩ := not_or.1 (mt List.mem_cons.2 hm)
    rw [hg.others, h.free kind' name hold ha]
    · intro he
      obtain ⟨rfl, rfl⟩ := ArtifactKind.place_inj.1 he
      exact hnew rfl
    · exact fun he => ha (ArtifactKind.place_inj.1 he).2
    · exact kind'.place_ne_directory kind here name

end Stock

namespace Make

/-- What a command specifies can be read and its paths are not too long, provided that its entity
can be read. -/
def Sound (make : Make) (root : Path) (settings : Settings) : Prop :=
  ∀ entity, Entity.parse make.name = .ok entity → make.kind.Fits root entity ∧
    ∃ request, request.entity = entity ∧ make.Spells settings request

variable {start root : Path} {here : Location} {settings : Settings} {stock : Stock}

/-! ## One turn -/

/-- A project stays as it is found, whatever a command makes in it. -/
theorem Turn.steady_after {turn : Turn}
    (h : Project.Steady start root here settings turn.before.files) (hp : turn.Proper root) :
    Project.Steady start root here settings turn.after.files where
  plain := turn.plain_after h.plain hp
  settled := turn.settled_after h.plain hp h.settled
  marked := by
    obtain ⟨bytes, text, hentry, hsettings⟩ := h.marked
    refine ⟨bytes, text, turn.keeps_file h.plain hp hentry fun kind he => ?_, hsettings⟩
    exact absurd (List.cons.inj he).1 (by decide)
  short := h.short

/-- What a turn comes to is what the stock answers. -/
structure Turn.Answered (turn : Turn) (stock : Stock) (root : Path) (here : Location) : Prop where
  /-- The turn is one in the project. -/
  proper : turn.Proper root
  /-- What is registered is what the stock says. -/
  artifact? : turn.artifact?.map (·.registration) =
    (stock.made? turn.make).map turn.make.kind.registration
  /-- The stock afterwards is as the stock says. -/
  isOf : (stock.after turn.make).IsOf here turn.after.files

section

variable {turn : Turn}
  (h : Project.Steady turn.setting.directory root here settings turn.before.files)
  (hstock : stock.IsOf here turn.before.files)

include h hstock

/-- A turn that makes nothing where the stock makes nothing. -/
theorem Turn.answered_of_failure (hmade : stock.made? turn.make = none) {kind : FailureKind}
    {message : String} (hkind : kind ≠ .file) (ho : turn.report.outcome = .failure kind message)
    (hsame : turn.after.files = turn.before.files) : turn.Answered stock root here where
  proper := by
    refine ⟨locate_of_settled h.settled, fun message' he => hkind ?_⟩
    rw [ho] at he
    exact (Outcome.failure.inj he).1
  artifact? := by
    have hfails : turn.Fails := ⟨fun path he => (by rw [ho] at he; cases he), hsame⟩
    rw [hfails.artifact?, hmade]
    rfl
  isOf := by
    rw [Stock.after_of_none hmade, hsame]
    exact hstock

/-- A turn in a steady project with the templates of the library comes to what the stock answers. -/
theorem Turn.answered (ht : settings.generator.templates = none)
    (hsound : turn.make.Sound root settings) : turn.Answered stock root here := by
  rcases hentity : Entity.parse turn.make.name with cause | entity
  · obtain ⟨ho, hsame⟩ := turn.runs.refused h.found hentity
    exact answered_of_failure h hstock (Stock.made?_of_error hentity) (by decide) ho hsame
  obtain ⟨hfits, request, rfl, hspells⟩ := hsound entity hentity
  obtain ⟨content, hprepared⟩ := exists_prepared h.found ht hspells
  by_cases hm : (turn.make.kind, turn.make.kind.fileName request.entity) ∈ stock
  · obtain ⟨-, bytes, hfile⟩ := hstock.there _ _ hm
    obtain ⟨ho, hsame⟩ := turn.runs.taken h.plain hprepared hentity hfits hfile
    exact answered_of_failure h hstock (Stock.made?_of_mem hentity hm) (by decide) ho hsame
  have hw := Entity.wellNamed_of_parse hentity
  have hfree := hstock.free _ _ hm (ArtifactKind.fileName_ne_aggregator hw)
  have ho := turn.runs.success h.plain hprepared hentity hfits hfree
  have hproper : turn.Proper root :=
    ⟨locate_of_settled h.settled, fun message he => by rw [ho] at he; cases he⟩
  obtain hfails | ⟨entity', artifact, hentity', hmade, -, hreg, hgains, -⟩ :=
    turn.fails_or_gains h.plain hproper
  · exact absurd ho (hfails.outcome _)
  obtain rfl := Except.ok.inj (hentity.symm.trans hentity')
  have hanswer := Stock.made?_of_not_mem hentity hm
  refine ⟨hproper, ?_, ?_⟩
  · rw [hmade, hanswer, Option.map_some, Option.map_some, hreg]
  · rw [Stock.after_of_some hanswer]
    exact hstock.of_gains h.plain hw hgains

end

/-! ## All turns -/

/-- Commands that are run from one directory of a steady project with the templates of the library
register what the stock answers, and none of them fails because of a file or directory. -/
theorem answers_turns {w : Workspace} {commands : List (Make × Setting)}
    (h : Project.Steady start root here settings w.files)
    (ht : settings.generator.templates = none) (hstock : stock.IsOf here w.files)
    (hd : ∀ command ∈ commands, command.2.directory = start)
    (hs : ∀ command ∈ commands, command.1.Sound root settings) :
    (∀ turn ∈ turns w commands, turn.Proper root) ∧
      (turns w commands).map
          (fun turn => (turn.make.kind, turn.artifact?.map (·.registration))) =
        stock.answers (commands.map (·.1)) := by
  induction commands generalizing w stock with
  | nil => exact ⟨by simp [turns], rfl⟩
  | cons command commands ih =>
    obtain ⟨make, setting⟩ := command
    obtain ⟨rfl, hd⟩ := List.forall_mem_cons.1 hd
    obtain ⟨hsound, hs⟩ := List.forall_mem_cons.1 hs
    have hanswered : Turn.Answered ⟨make, setting, w⟩ stock root here :=
      Turn.answered h hstock ht hsound
    obtain ⟨hproper, hanswers⟩ :=
      ih (Turn.steady_after h hanswered.proper) hanswered.isOf hd hs
    refine ⟨List.forall_mem_cons.2 ⟨hanswered.proper, hproper⟩, ?_⟩
    rw [turns, List.map_cons, List.map_cons, Stock.answers, hanswers, hanswered.artifact?]

end Make

end Groundwork
