import Groundwork.Proofs.Artifact.Names
import Groundwork.Proofs.Artifact.Placement
import Groundwork.Proofs.Path.Components

/-!
# The paths of artifacts

The path of an artifact has two components, the directory of its kind and the name of a file, and
it stays that way wherever the project is: joined to a root it names an entry of the directory as
seen from the root, and never the aggregator (`ArtifactKind.path_in_place`). What could break this
are the characters that a name gets when it is put into lower case, since only what was typed has
been checked; but they are clear characters like those of the name (`Entity.clear_of_mem_fileStem`).
-/

namespace Groundwork

open Text Groundwork.Path

/-! ## Names of files -/

/-- The file stem of an accepted entity consists of clear characters. -/
theorem Entity.clear_of_mem_fileStem {raw : String} {entity : Entity}
    (h : parse raw = .ok entity) {c : Char} (hc : c ∈ entity.fileStem.toList) :
    isClear c = true := by
  have hname {d : Char} := @clear_of_mem_typeName raw entity h d
  obtain ⟨name, -, rfl⟩ := parse_eq_ok h
  rw [String.toList_ofList] at hc
  refine clear_of_mem_lowerChars (fun d hd => hname ?_) hc
  rwa [String.toList_ofList]

namespace ArtifactKind

variable {kind : ArtifactKind} {entity entity' : Entity}

/-- The name of the file of an accepted entity has no control character. -/
theorem not_control_of_mem_fileName {raw : String} (h : Entity.parse raw = .ok entity) {c : Char}
    (hc : c ∈ (kind.fileName entity).toList) : isControl c = false := by
  rw [toList_fileName, List.mem_append] at hc
  rcases hc with hc | hc
  · exact not_control_of_clear (Entity.clear_of_mem_fileStem h hc)
  · have hall : ((kind.suffix.toList ++ ".py".toList).all fun c => !isControl c) = true := by
      cases kind <;> decide
    simpa using List.all_eq_true.1 hall c hc

theorem py_suffix_fileName (kind : ArtifactKind) (entity : Entity) :
    ".py".toList <:+ (kind.fileName entity).toList :=
  ⟨entity.fileStem.toList ++ kind.suffix.toList, by rw [toList_fileName, List.append_assoc]⟩

theorem path_inj : kind.path entity = kind.path entity' ↔ entity.fileStem = entity'.fileStem := by
  have hname : kind.fileName entity = kind.fileName entity' ↔ _ := fileName_inj
  rw [path_eq, path_eq, ← hname]
  constructor
  · intro he
    have hl := congrArg (fun p : Path => p.text.toList) he
    simp only [toList_pair, List.append_cancel_left_eq, List.cons.injEq, true_and] at hl
    exact String.toList_inj.1 hl
  · intro he
    rw [he]

theorem model_path_ne_controller_path (entity entity' : Entity) :
    model.path entity ≠ controller.path entity' := by
  intro he
  have hl := congrArg (fun p : Path => p.text.toList.head?) he
  rw [path_eq, path_eq] at hl
  simp [toList_pair, directory] at hl

end ArtifactKind

/-! ## Places of files -/

namespace FileTree

variable {t : FileTree} {root p : Path} {directory name : String} {place : Location} {slash : Bool}

/-- What is created at a path is an entry called `name` of the directory at a place, if neither the
path nor the name is too long. -/
def CreatesIn (t : FileTree) (p : Path) (name : String) (place : Location) : Prop :=
  byteLength p.text ≤ pathLimit → byteLength name ≤ nameLimit →
    t.resolve .create p = .ok ⟨name :: place, t.entry? (name :: place), false⟩

theorem createsIn_join_pair (hd : IsName directory) (hn : IsName name)
    (h : t.resolve .look (root.join ⟨directory⟩) = .ok ⟨place, some .directory, slash⟩) :
    t.CreatesIn (root.join (pair directory name)) name place := by
  intro hp hl
  obtain ⟨links, hreaches⟩ := reaches_of_resolve h
  rw [join_pair root hd hn] at hp ⊢
  exact resolve_short_name hreaches hn hl hp (by simp [Purpose.follows])

end FileTree

namespace ArtifactKind

/-- **Artifacts stay in place.** The path of an artifact of an accepted entity consists of two
ordinary components: the directory of its kind and a name that ends in `.py`, has no slash, null or
other control character, and is none of the names with a meaning of their own. Joined to a root it
is the path of that name in the directory as seen from the root, and where that leads to a directory
the file is an entry of it, next to the aggregator. Two artifacts of a kind have the same path just
in case their entities have the same file stem, and a model never has the path of a controller. -/
theorem path_in_place {raw : String} {entity : Entity} (h : Entity.parse raw = .ok entity)
    (kind : ArtifactKind) :
    ∃ name : String,
      (kind.path entity).components = [.down kind.directory, .down name] ∧
      ".py".toList <:+ name.toList ∧
      (∀ c ∈ name.toList, c ≠ '/' ∧ c ≠ '\x00' ∧ isControl c = false) ∧
      name ≠ "." ∧ name ≠ ".." ∧ name ≠ "__init__.py" ∧
      (∀ root : Path,
        (root.join (kind.path entity)).components =
          root.components ++ [.down kind.directory, .down name] ∧
        (root.join (kind.path entity)).parent? = some (root.join ⟨kind.directory⟩) ∧
        (root.join (kind.path entity)).fileName? = some name ∧
        (root.join kind.aggregator).parent? = some (root.join ⟨kind.directory⟩) ∧
        (root.join kind.aggregator).fileName? = some "__init__.py") ∧
      (∀ (t : FileTree) (root : Path) (place : Location) (slash : Bool),
        t.resolve .look (root.join ⟨kind.directory⟩) = .ok ⟨place, some .directory, slash⟩ →
          t.CreatesIn (root.join (kind.path entity)) name place ∧
          t.CreatesIn (root.join kind.aggregator) "__init__.py" place) ∧
      (∀ entity' : Entity,
        kind.path entity = kind.path entity' ↔ entity.fileStem = entity'.fileStem) ∧
      ∀ entity' : Entity, model.path entity ≠ controller.path entity' ∧
        model.path entity' ≠ controller.path entity := by
  have hnamed := Entity.wellNamed_of_parse h
  have hd := kind.isName_directory
  have hn : IsName (kind.fileName entity) := isName_fileName hnamed
  have hi : IsName "__init__.py" := isName_aggregator
  refine ⟨kind.fileName entity, ?_, kind.py_suffix_fileName entity, fun c hc => ⟨?_, ?_, ?_⟩,
    hn.ne_point, hn.ne_points, fileName_ne_aggregator hnamed, fun root => ?_,
    fun t root place slash ht => ?_, fun entity' => path_inj,
    fun entity' => ⟨model_path_ne_controller_path _ _, model_path_ne_controller_path _ _⟩⟩
  · rw [path_eq]
    exact components_pair hd hn
  · rintro rfl
    exact hn.noSlash hc
  · rintro rfl
    exact hn.noNull hc
  · exact not_control_of_mem_fileName h hc
  · rw [path_eq, aggregator_eq]
    exact ⟨components_join_pair root hd hn, parent?_join_pair root hd hn,
      fileName?_join_pair root hd hn, parent?_join_pair root hd hi, fileName?_join_pair root hd hi⟩
  · rw [path_eq, aggregator_eq]
    exact ⟨FileTree.createsIn_join_pair hd hn ht, FileTree.createsIn_join_pair hd hi ht⟩

/-- A project whose controllers are kept in another directory. -/
def linkedControllers : FileTree :=
  ⟨[(["shop"], .directory), (["lib"], .directory), (["controllers", "shop"], .link ⟨"../lib"⟩)]⟩

theorem resolve_linkedControllers :
    linkedControllers.resolve .look ((⟨"/shop"⟩ : Path).join ⟨"controllers"⟩) =
      .ok ⟨["lib"], some .directory, false⟩ := by
  have hshop : linkedControllers.entry? ["shop"] = some .directory := rfl
  have hlink : linkedControllers.entry? ["controllers", "shop"] = some (.link ⟨"../lib"⟩) := rfl
  have hlib : linkedControllers.entry? ["lib"] = some .directory := rfl
  have hsteps : (⟨"../lib"⟩ : Path).steps = ["..", "lib"] := by decide +kernel
  have hjoined : ((⟨"/shop"⟩ : Path).join ⟨"controllers"⟩).steps = ["shop", "controllers"] := by
    decide +kernel
  have hend (links : Nat) : linkedControllers.walk .look links ["shop"] ["..", "lib"] false =
      .ok ⟨["lib"], some .directory, false⟩ := by
    rw [FileTree.walk, if_neg (by decide), if_pos rfl]
    exact FileTree.walk_name (by decide) (by decide) (by simp [hlib])
  refine FileTree.resolve_eq_ok_iff.2 ⟨by decide +kernel, by decide +kernel, by decide +kernel, ?_⟩
  rw [hjoined, FileTree.walk_cons (by decide) (by decide) (by decide) (by decide), hshop]
  simp only [List.isEmpty_cons, Bool.false_eq_true, if_false]
  rw [FileTree.walk_cons (by decide) (by decide) (by decide +kernel) (by decide), hlink]
  have hstart : (⟨"../lib"⟩ : Path).isAbsolute = false := rfl
  have hslash : ((⟨"/shop"⟩ : Path).join ⟨"controllers"⟩).endsWithSlash = false ∧
      (⟨"../lib"⟩ : Path).endsWithSlash = false := by
    decide +kernel
  simp [FileTree.Purpose.follows, FileTree.linkLimit, hsteps, hstart, hslash, hend]

/-- In the name of this entity the lower-case form of the first letter ends in a mark, and that of
the last one is the form that ends a word. The file lies where the link leads. -/
theorem path_in_place_sigma :
    Entity.parse " \u0130\u03a3 " = .ok ⟨"\u0130\u03a3", "i\u0307\u03c2"⟩ ∧
      (controller.path ⟨"\u0130\u03a3", "i\u0307\u03c2"⟩).components =
        [.down "controllers", .down "i\u0307\u03c2_controller.py"] ∧
      linkedControllers.CreatesIn
        ((⟨"/shop"⟩ : Path).join (controller.path ⟨"\u0130\u03a3", "i\u0307\u03c2"⟩))
        "i\u0307\u03c2_controller.py" ["lib"] := by
  have h : Entity.parse " \u0130\u03a3 " = .ok ⟨"\u0130\u03a3", "i\u0307\u03c2"⟩ := by
    decide +kernel
  obtain ⟨name, hcomponents, -, -, -, -, -, hroot, htree, -⟩ := path_in_place h controller
  have hname : name = "i\u0307\u03c2_controller.py" := by
    have hlast : ((⟨"/shop"⟩ : Path).join
        (controller.path ⟨"\u0130\u03a3", "i\u0307\u03c2"⟩)).fileName? =
        some "i\u0307\u03c2_controller.py" := by
      decide +kernel
    exact Option.some.inj ((hroot ⟨"/shop"⟩).2.2.1.symm.trans hlast)
  subst hname
  exact ⟨h, hcomponents, (htree _ _ _ _ resolve_linkedControllers).1⟩

end ArtifactKind

end Groundwork
