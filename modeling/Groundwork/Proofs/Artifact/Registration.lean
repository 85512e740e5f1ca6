import Groundwork.Proofs.Artifact.Names
import Groundwork.Proofs.Artifact.Writes
import Groundwork.Proofs.Files.Appending
import Groundwork.Proofs.Text.Damage
import Groundwork.Proofs.Text.Trim
import Mathlib.Logic.Relation

/-!
# Registering a line, byte by byte

An aggregator may hold any bytes. It registers the line of an artifact just in case one of the
segments between its line feeds consists of the bytes of the line and the spelling of blanks
(`registers_iff_holds`): the line has no replacement character in it, so nothing that is damaged is
taken for it, and a damaged segment does not reach over its end. If the line is registered the
aggregator is left as it is, and otherwise it gains the line on a line of its own. From then on the
line is found there, whatever other artifacts are registered (`register_exact`).
-/

namespace Groundwork

open Text Workspace

/-! ## Lines without damage -/

namespace Entity

variable {raw : String} {entity : Entity}

theorem replacement_not_mem_identifierTail {cs : List Char} (h : isIdentifierTail cs = true) :
    '\uFFFD' ∉ cs := by
  intro hc
  have hno : isAlphanumeric '\uFFFD' = false := by decide +kernel
  exact absurd (List.all_eq_true.1 h _ hc) (by simp [hno])

theorem replacement_not_mem_typeName (h : parse raw = .ok entity) :
    '\uFFFD' ∉ entity.typeName.toList := by
  obtain ⟨name, hname, rfl⟩ := parse_eq_ok h
  obtain ⟨first, rest, u, us, -, hfirst, hrest, hu, -, rfl⟩ := typeName?_eq_some hname
  rw [String.toList_ofList, ← hu, List.mem_append, not_or]
  refine ⟨fun hc => ?_, replacement_not_mem_identifierTail hrest⟩
  rcases ne_replacement_of_mem_upperForm hc with rfl | hne
  · have hno : isAlphabetic '\uFFFD' = false := by decide +kernel
    exact absurd hfirst (by simp [hno])
  · exact hne rfl

theorem replacement_not_mem_fileStem (h : parse raw = .ok entity) :
    '\uFFFD' ∉ entity.fileStem.toList := by
  have htype := replacement_not_mem_typeName h
  obtain ⟨name, -, rfl⟩ := parse_eq_ok h
  rw [String.toList_ofList] at htype ⊢
  exact replacement_not_mem_lowerChars htype

end Entity

theorem ArtifactKind.replacement_not_mem_registration {raw : String} {entity : Entity}
    (h : Entity.parse raw = .ok entity) (kind : ArtifactKind) :
    '\uFFFD' ∉ (kind.registration entity).toList := by
  have htype := Entity.replacement_not_mem_typeName h
  have hstem := Entity.replacement_not_mem_fileStem h
  rw [toList_registration, moduleName_eq, className_eq]
  cases kind <;> simp [suffix, classSuffix, htype, hstem]

namespace Aggregator

variable {bytes : List UInt8} {line line' : String}

/-! ## Segments -/

/-- Some segment between the line feeds of the bytes is the spelling of a line and of blanks. -/
def Holds (bytes : List UInt8) (line : String) : Prop :=
  ∃ segment ∈ bytes.splitOn 10, ∃ blanks : List Char, (∀ c ∈ blanks, isBlank c = true) ∧
    segment = encode line ++ encodeChars blanks

/-- The segments of the bytes are read each on its own. -/
theorem spelled_eq (bytes : List UInt8) : spelled bytes = (bytes.splitOn 10).map decodeLossy := by
  induction hn : bytes.length using Nat.strong_induction_on generalizing bytes with
  | _ n ih =>
    have hsegment {segment : List UInt8} (h : 10 ∉ segment) :
        spelled segment = [decodeLossy segment] :=
      pieces_of_not_mem (mt mem_of_newline_mem h)
    by_cases h10 : 10 ∈ bytes
    · obtain ⟨front, rest, rfl, hfront⟩ := List.eq_append_cons_of_mem h10
      have hcut : (front ++ 10 :: rest).splitOn 10 = front.splitOn 10 ++ rest.splitOn 10 :=
        List.splitOnP_append_cons front rest rfl
      have hlength : rest.length < n := by
        rw [← hn, List.length_append, List.length_cons]
        omega
      rw [spelled_append_newline, hsegment hfront, ih _ hlength rest rfl, hcut,
        List.splitOn_eq_singleton hfront, List.map_append, List.map_singleton]
    · rw [hsegment h10, List.splitOn_eq_singleton h10, List.map_singleton]

/-- A line without damage is registered where a segment consists of its bytes and blanks. -/
theorem registers_iff_holds (h : IsLine line) (hmark : '\uFFFD' ∉ line.toList) :
    registers bytes line = true ↔ Holds bytes line := by
  rw [registers_iff h.ne_empty, spelled_eq, Holds]
  simp only [List.mem_map, exists_exists_and_eq_and]
  refine exists_congr fun segment => and_congr_right fun _ => ?_
  rw [trimEndChars_eq_iff h.trimmed]
  refine exists_congr fun blanks => and_congr_right fun hblanks => ?_
  have hclear : '\uFFFD' ∉ line.toList ++ blanks := by
    have hno : isBlank '\uFFFD' = false := by decide
    rw [List.mem_append, not_or]
    exact ⟨hmark, fun hm => absurd (hblanks _ hm) (by simp [hno])⟩
  rw [encode, ← encodeChars_append]
  constructor
  · intro hread
    rw [← hread, encodeChars_decodeLossy (hread ▸ hclear)]
  · rintro rfl
    exact decodeLossy_encodeChars _

/-- A line is closed before the new one if there is an open one. -/
theorem gap_eq (bytes : List UInt8) :
    gap bytes = if bytes = [] ∨ bytes.getLast? = some 10 then [] else [10] := by
  rcases hlast : bytes.getLast? with _ | b
  · rw [List.getLast?_eq_none_iff.1 hlast]
    rfl
  · have hne : bytes ≠ [] := by
      rintro rfl
      cases hlast
    by_cases hb : b = 10 <;> simp [gap, hlast, hne, hb]

/-! ## Runs -/

/-- What registers some artifact of an accepted entity. -/
def IsRegistration (line : String) : Prop :=
  ∃ raw entity kind, Entity.parse raw = .ok entity ∧ line = ArtifactKind.registration kind entity

theorem IsRegistration.isLine (h : IsRegistration line) : IsLine line := by
  obtain ⟨raw, entity, kind, hparse, rfl⟩ := h
  exact ArtifactKind.isLine_registration (Entity.wellNamed_of_parse hparse)

theorem IsRegistration.registers_iff (h : IsRegistration line) :
    registers bytes line = true ↔ Holds bytes line := by
  have hline := h.isLine
  obtain ⟨raw, entity, kind, hparse, rfl⟩ := h
  exact registers_iff_holds hline (kind.replacement_not_mem_registration hparse)

variable {p : Path} {w w' : Workspace}

/-- Registering a line in an aggregator that can be read. -/
theorem run_register_of_read (h : w.files.read p = .ok bytes) (line : String) :
    ∃ w', (Action.register p line : Action (StateM Workspace) Bool).run w =
        (.ok !registers bytes line, w') ∧
      w'.files.read p = .ok (registered bytes line) ∧ (registers bytes line = true → w' = w) := by
  have hexisting : w.files.existing p = .ok bytes := by rw [FileTree.existing, h]
  rw [run_register, hexisting]
  dsimp only
  rcases hl : registers bytes line with _ | _
  · obtain ⟨t, happend, hread⟩ := FileTree.append_of_read h (addition bytes line)
    refine ⟨{ w with files := t }, ?_, ?_, fun h => absurd h Bool.false_ne_true⟩
    · rw [if_neg Bool.false_ne_true, run_andThen, run_attempt, run_append, change, happend]
      rfl
    · rw [registered, hl]
      exact hread
  · refine ⟨w, rfl, ?_, fun _ => rfl⟩
    rw [registered, hl]
    exact h

/-- `w'` comes after `w` by registering an artifact in the aggregator at `p`. -/
def Follows (p : Path) (w w' : Workspace) : Prop :=
  ∃ line, IsRegistration line ∧
    w' = ((Action.register p line : Action (StateM Workspace) Bool).run w).2

/-- The aggregator at `p` can be read and registers `line`. -/
def Knows (p : Path) (line : String) (w : Workspace) : Prop :=
  ∃ bytes, w.files.read p = .ok bytes ∧ registers bytes line = true

/-- What an aggregator registers it registers after another artifact has been registered. -/
theorem Knows.follows (hline : line ≠ "") (h : Knows p line w) (hw : Follows p w w') :
    Knows p line w' := by
  obtain ⟨bytes, hread, hreg⟩ := h
  obtain ⟨other, hother, rfl⟩ := hw
  obtain ⟨w', hrun, hread', -⟩ := run_register_of_read hread other
  rw [hrun]
  exact ⟨_, hread', (registers_registered hother.isLine hline).2 (.inl hreg)⟩

theorem Knows.run_register (h : Knows p line w) :
    (Action.register p line : Action (StateM Workspace) Bool).run w = (.ok false, w) := by
  obtain ⟨bytes, hread, hreg⟩ := h
  obtain ⟨w', hrun, -, hsame⟩ := run_register_of_read hread line
  rw [hrun, hreg, hsame hreg]
  rfl

/-- **Exact registration.** Registering an artifact in an aggregator that can be read succeeds. It
tells that nothing is new and changes nothing if a segment of the bytes consists of the line and
blanks, and only then; otherwise the bytes gain a line feed if they leave a line open, the line, and
a line feed. Whatever artifacts are registered next, the line is not new again. -/
theorem register_exact (hline : IsRegistration line) (hread : w.files.read p = .ok bytes) :
    ∃ new w', (Action.register p line : Action (StateM Workspace) Bool).run w = (.ok new, w') ∧
      (new = false ↔ Holds bytes line) ∧
      (new = false → w' = w) ∧
      (new = true → w'.files.read p =
        .ok (bytes ++ (if bytes = [] ∨ bytes.getLast? = some 10 then [] else [10]) ++
          encode line ++ [10])) ∧
      ∀ later, Relation.ReflTransGen (Follows p) w' later →
        (Action.register p line : Action (StateM Workspace) Bool).run later =
          (.ok false, later) := by
  obtain ⟨w', hrun, hread', hsame⟩ := run_register_of_read hread line
  have hknows : Knows p line w' :=
    ⟨_, hread', (registers_registered hline.isLine hline.isLine.ne_empty).2 (.inr rfl)⟩
  refine ⟨_, w', hrun, ?_, ?_, ?_, fun later hlater => ?_⟩
  · rw [← hline.registers_iff]
    simp
  · simpa using hsame
  · intro hnew
    rw [hread', registered, if_neg (by simpa using hnew), addition_eq, gap_eq, ← List.append_assoc,
      ← List.append_assoc]
  · refine Knows.run_register ?_
    induction hlater with
    | refl => exact hknows
    | tail _ hstep ih => exact ih.follows hline.isLine.ne_empty hstep

/-- An aggregator whose last character has been cut off. -/
def cutOff : FileTree := ⟨[(["init"], .file [0xE2, 0x82])]⟩

theorem read_cutOff : cutOff.read ⟨"/init"⟩ = .ok [0xE2, 0x82] := by
  have hsteps : (⟨"/init"⟩ : Path).steps = ["init"] := by decide
  refine FileTree.read_eq_ok_iff.2 ⟨["init"], FileTree.resolve_eq_ok_iff.2
    ⟨by decide, by decide, by decide, ?_⟩⟩
  rw [hsteps, FileTree.walk_cons (by decide) (by decide) (by decide) (by decide)]
  rfl

/-- What has been cut off does not swallow the line that comes after it. -/
theorem register_exact_cutOff :
    ∃ w', (Action.register ⟨"/init"⟩ "from .post import Post" : Action (StateM Workspace) Bool).run
          ⟨cutOff, []⟩ = (.ok true, w') ∧
      w'.files.read ⟨"/init"⟩ =
        .ok ([0xE2, 0x82] ++ [10] ++ encode "from .post import Post" ++ [10]) ∧
      (Action.register ⟨"/init"⟩ "from .post import Post" : Action (StateM Workspace) Bool).run w' =
        (.ok false, w') := by
  have hline : IsRegistration "from .post import Post" :=
    ⟨"post", ⟨"Post", "post"⟩, .model, by decide +kernel, by decide +kernel⟩
  obtain ⟨new, w', hrun, hholds, -, hnew, hlater⟩ :=
    register_exact (w := ⟨cutOff, []⟩) hline read_cutOff
  have hmissing : ¬ Holds [0xE2, 0x82] "from .post import Post" := by
    rintro ⟨segment, hsegment, blanks, -, rfl⟩
    have hwhole := congrArg List.length (List.mem_singleton.1 hsegment)
    have hline : (encode "from .post import Post").length = 22 := by decide
    rw [List.length_append, hline] at hwhole
    simp at hwhole
    omega
  obtain rfl : new = true := by simpa using mt hholds.1 hmissing
  exact ⟨w', hrun, hnew rfl, hlater w' .refl⟩

end Aggregator

end Groundwork
