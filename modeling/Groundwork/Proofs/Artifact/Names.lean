import Groundwork.Artifact
import Groundwork.Proofs.Artifact.Aggregator
import Groundwork.Proofs.Entry
import Groundwork.Proofs.Path
import Groundwork.Proofs.Text.LetterCase

/-!
# The names of artifacts

The names of an entity consist of letters, numbers and underscores, or of what these become in the
other case, and its file stem does not begin with an underscore (`Entity.WellNamed`,
`wellNamed_of_parse`). So the file of an artifact has a name that a directory can hold
(`isName_fileName`), which is not that of the aggregator beside it (`fileName_ne_aggregator`). Its
registration is one line (`isLine_registration`), and it tells the file stem (`fileStem_inj`).
-/

namespace Groundwork

open Text Groundwork.Path

/-! ## Entities -/

/-- What holds of the names of every entity that is read. -/
structure Entity.WellNamed (entity : Entity) : Prop where
  /-- The class has a name. -/
  typeName_ne_empty : entity.typeName ≠ ""
  /-- The name of the class holds neither signs before the digits nor blanks. -/
  typeName_signs : ∀ c ∈ entity.typeName.toList, 48 ≤ c.toNat ∧ isBlank c = false
  /-- The file stem holds no signs before the digits. -/
  fileStem_signs : ∀ c ∈ entity.fileStem.toList, 48 ≤ c.toNat
  /-- The file stem does not begin with an underscore. -/
  fileStem_head : ∃ c cs, entity.fileStem.toList = c :: cs ∧ c ≠ '_'

namespace Entity

theorem sign_of_identifierTail {cs : List Char} (h : isIdentifierTail cs = true) {c : Char}
    (hc : c ∈ cs) : 48 ≤ c.toNat ∧ isBlank c = false := by
  have ht := List.all_eq_true.1 h c hc
  rw [Bool.or_eq_true, beq_iff_eq] at ht
  rcases ht with ha | rfl
  · exact ⟨le_toNat_of_alphanumeric ha, not_blank_of_alphanumeric ha⟩
  · exact ⟨by decide, by decide⟩

theorem typeName?_cases {cs name : List Char} (h : typeName? cs = some name) :
    ∃ u us, name = u :: us ∧ isUppercase u = true ∧
      ∀ c ∈ name, 48 ≤ c.toNat ∧ isBlank c = false := by
  obtain ⟨c, rest, u, us, -, hc, hrest, hu, hup, rfl⟩ := typeName?_eq_some h
  refine ⟨u, us ++ rest, rfl, hup, fun d hd => ?_⟩
  rcases List.mem_append.1 hd with hd | hd
  · rcases mem_upperForm (hu ▸ hd) with rfl | ⟨hs, hb⟩
    · have ha : isAlphanumeric d = true := by simp [isAlphanumeric, hc]
      exact ⟨le_toNat_of_alphanumeric ha, not_blank_of_alphanumeric ha⟩
    · exact ⟨by omega, hb⟩
  · exact sign_of_identifierTail hrest hd

theorem wellNamed_of_parse {raw : String} {entity : Entity} (h : parse raw = .ok entity) :
    entity.WellNamed := by
  obtain ⟨name, hn, rfl⟩ := parse_eq_ok h
  obtain ⟨u, us, rfl, hu, hs⟩ := typeName?_cases hn
  refine ⟨by simp, by simpa using hs, ?_, ?_⟩
  · intro c hc
    rw [String.toList_ofList] at hc
    rcases mem_lowerChars hc with hc | hc
    · omega
    · exact (hs c hc).1
  · obtain ⟨c, cs, hl, hc⟩ := lowerChars_cons u us
    refine ⟨c, cs, by rw [String.toList_ofList, hl], ?_⟩
    rintro rfl
    rcases hc with hc | rfl
    · simp at hc
    · have hup : isUppercase '_' = false := by decide
      simp [hup] at hu

end Entity

/-! ## Files -/

namespace ArtifactKind

variable {kind kind' : ArtifactKind} {entity entity' : Entity}

/-- The name of the file of an artifact. -/
def fileName (kind : ArtifactKind) (entity : Entity) : String := kind.moduleName entity ++ ".py"

/-- The name of the aggregator of every kind. -/
def aggregatorName : String := "__init__.py"

theorem path_eq (kind : ArtifactKind) (entity : Entity) :
    kind.path entity = pair kind.directory (kind.fileName entity) := by
  simp [path, pair, fileName, String.append_assoc]

theorem aggregator_eq (kind : ArtifactKind) :
    kind.aggregator = pair kind.directory aggregatorName := by
  cases kind <;> rfl

theorem isName_directory (kind : ArtifactKind) : IsName kind.directory := by
  cases kind <;> constructor <;> decide

theorem isName_aggregator : IsName aggregatorName := by
  constructor <;> decide

/-- What the name of a module adds to the file stem. -/
def suffix : ArtifactKind → String
  | model => ""
  | controller => "_controller"

theorem moduleName_eq (kind : ArtifactKind) (entity : Entity) :
    kind.moduleName entity = entity.fileStem ++ kind.suffix := by
  cases kind <;> simp [moduleName, suffix]

theorem toList_fileName (kind : ArtifactKind) (entity : Entity) :
    (kind.fileName entity).toList =
      entity.fileStem.toList ++ (kind.suffix.toList ++ ".py".toList) := by
  simp [fileName, moduleName_eq]

/-- The names of modules differ as the file stems do. -/
theorem moduleName_inj : kind.moduleName entity = kind.moduleName entity' ↔
    entity.fileStem = entity'.fileStem := by
  simp [moduleName_eq]

theorem fileName_inj : kind.fileName entity = kind.fileName entity' ↔
    entity.fileStem = entity'.fileStem := by
  simp [fileName, moduleName_inj]

/-- What follows the file stem in the name of a file has no slash and no sign before the point. -/
theorem suffix_signs {c : Char} (hc : c ∈ kind.suffix.toList ++ ".py".toList) :
    46 ≤ c.toNat ∧ c ≠ '/' := by
  have hall : ((kind.suffix.toList ++ ".py".toList).all
      fun c => decide (46 ≤ c.toNat ∧ c ≠ '/')) = true := by
    cases kind <;> decide
  exact of_decide_eq_true (List.all_eq_true.1 hall c hc)

theorem isName_fileName (h : entity.WellNamed) : IsName (kind.fileName entity) := by
  have hs {c : Char} (hc : c ∈ (kind.fileName entity).toList) : 46 ≤ c.toNat ∧ c ≠ '/' := by
    rw [toList_fileName, List.mem_append] at hc
    rcases hc with hc | hc
    · have := h.fileStem_signs c hc
      refine ⟨by omega, ?_⟩
      rintro rfl
      simp at this
    · exact suffix_signs hc
  obtain ⟨c, cs, hc, -⟩ := h.fileStem_head
  have hl : 4 ≤ (kind.fileName entity).toList.length := by
    rw [toList_fileName, hc]
    cases kind <;> simp [suffix]
  refine ⟨?_, fun hm => (hs hm).2 rfl, fun hm => ?_, ?_, ?_⟩
  · rintro he
    simp [he] at hl
  · have := (hs hm).1
    simp at this
  · rintro he
    simp [he] at hl
  · rintro he
    simp [he] at hl

theorem fileName_ne_aggregator (h : entity.WellNamed) : kind.fileName entity ≠ aggregatorName := by
  obtain ⟨c, cs, hc, hn⟩ := h.fileStem_head
  intro he
  have hl := congrArg String.toList he
  rw [toList_fileName, hc] at hl
  simp only [aggregatorName, List.cons_append] at hl
  exact hn (List.cons.inj hl).1

/-! ## Registrations -/

/-- What the name of a class adds to the name of its entity. -/
def classSuffix : ArtifactKind → String
  | model => ""
  | controller => "Controller"

theorem className_eq (kind : ArtifactKind) (entity : Entity) :
    kind.className entity = entity.typeName ++ kind.classSuffix := by
  cases kind <;> simp [className, classSuffix]

theorem not_blank_of_mem_className (h : entity.WellNamed) {c : Char}
    (hc : c ∈ (kind.className entity).toList) : isBlank c = false := by
  rw [className_eq, String.toList_append, List.mem_append] at hc
  rcases hc with hc | hc
  · exact (h.typeName_signs c hc).2
  · have hall : (kind.classSuffix.toList.all fun c => !isBlank c) = true := by
      cases kind <;> decide
    simpa using List.all_eq_true.1 hall c hc

theorem not_break_of_mem_moduleName (h : entity.WellNamed) {c : Char}
    (hc : c ∈ (kind.moduleName entity).toList) : c ≠ ' ' ∧ c ≠ '\n' := by
  rw [moduleName_eq, String.toList_append, List.mem_append] at hc
  rcases hc with hc | hc
  · have hs := h.fileStem_signs c hc
    constructor <;> rintro rfl <;> simp at hs
  · have hs := (suffix_signs (List.mem_append_left _ hc)).1
    constructor <;> rintro rfl <;> simp at hs

theorem toList_registration (kind : ArtifactKind) (entity : Entity) :
    (kind.registration entity).toList =
      "from .".toList ++ ((kind.moduleName entity).toList ++
        ' ' :: ("import ".toList ++ (kind.className entity).toList)) := by
  simp [registration]

theorem trimEndChars_of_last {cs : List Char} {c : Char} (h : cs.getLast? = some c)
    (hc : isBlank c = false) : trimEndChars cs = cs := by
  obtain ⟨ds, rfl⟩ := List.getLast?_eq_some_iff.1 h
  simp [trimEndChars, hc]

theorem isLine_registration (h : entity.WellNamed) :
    Aggregator.IsLine (kind.registration entity) := by
  have hblank : isBlank '\n' = true := by decide
  refine ⟨fun he => ?_, fun hm => ?_, ?_⟩
  · have hl := congrArg String.toList he
    rw [toList_registration] at hl
    simp at hl
  · rw [toList_registration, List.mem_append, List.mem_append, List.mem_cons, List.mem_append] at hm
    rcases hm with hm | hm | hm | hm | hm
    · simp at hm
    · exact (not_break_of_mem_moduleName h hm).2 rfl
    · simp at hm
    · simp at hm
    · simp [not_blank_of_mem_className h hm] at hblank
  · have hne : (kind.className entity).toList ≠ [] := by
      simp [className_eq, h.typeName_ne_empty]
    obtain ⟨cs, c, hc⟩ := (List.eq_nil_or_concat (kind.className entity).toList).resolve_left hne
    rw [List.concat_eq_append] at hc
    have hm : c ∈ (kind.className entity).toList := by simp [hc]
    refine trimEndChars_of_last (c := c) ?_ (not_blank_of_mem_className h hm)
    · rw [toList_registration, hc]
      simp only [← List.append_assoc, ← List.cons_append, List.getLast?_concat]

/-- The registration of an artifact tells the file stem of its entity. -/
theorem fileStem_inj (h : entity.WellNamed) (h' : entity'.WellNamed)
    (he : kind.registration entity = kind.registration entity') :
    entity.fileStem = entity'.fileStem := by
  have hl := congrArg String.toList he
  rw [toList_registration, toList_registration, List.append_cancel_left_eq] at hl
  have hp := congrArg (fun cs => (pieces ' ' cs).head?) hl
  have hs : ' ' ∉ (kind.moduleName entity).toList :=
    fun hm => (not_break_of_mem_moduleName h hm).1 rfl
  have hs' : ' ' ∉ (kind.moduleName entity').toList := fun hm =>
    (not_break_of_mem_moduleName h' hm).1 rfl
  simp only [pieces_append_cons, pieces_of_not_mem hs, pieces_of_not_mem hs', List.cons_append,
    List.head?_cons, Option.some.injEq] at hp
  exact moduleName_inj.1 (String.toList_inj.1 hp)

end ArtifactKind

end Groundwork
