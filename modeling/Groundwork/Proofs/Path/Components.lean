import Groundwork.Proofs.Path.Ancestors

/-!
# Components of paths

What a path goes through, one component after the other: it may begin at the root or in the
directory that one is in, and it goes on up or down. Slashes and points that change nothing are no
components. A name that is joined to a path adds one component, whatever the path ends in
(`Path.components_join`), and a pair of names adds two (`Path.components_join_pair`).
-/

namespace Groundwork.Path

open Text

/-- A component of a path. -/
inductive Component
  /-- The root, at the beginning. -/
  | root
  /-- The directory that one is in, at the beginning. -/
  | here
  /-- The directory above. -/
  | up
  /-- What is called `name`, the one kind of component that is ordinary. -/
  | down (name : String)
  deriving DecidableEq, Repr

namespace Component

/-- The component that a path begins with, if it has a lead. -/
def ofLead : List Char → List Component
  | ['/'] => [root]
  | ['.'] => [here]
  | _ => []

/-- The component that a segment stands for, unless it is idle. -/
def ofSegment (segment : List Char) : Option Component :=
  if isIdle segment then none
  else if segment = ['.', '.'] then some up
  else some (down (String.ofList segment))

theorem ofSegment_nil : ofSegment [] = none := rfl

theorem ofSegment_name {name : String} (h : IsName name) :
    ofSegment name.toList = some (down name) := by
  rw [ofSegment, h.not_idle, if_neg Bool.false_ne_true, if_neg h.toList_ne_points,
    String.ofList_toList]

end Component

/-- The components of a path, in order. -/
def components (p : Path) : List Component :=
  Component.ofLead (lead p.text.toList) ++
    (segments p.text.toList).reverse.filterMap Component.ofSegment

/-! ## Joined paths -/

variable {name directory : String}

/-- A name that is joined to a path is one component more. -/
theorem components_join (p : Path) (h : IsName name) :
    (p.join ⟨name⟩).components = p.components ++ [.down name] := by
  obtain ⟨hlead, rest, hjoin, hrest⟩ := lead_segments_join p h.noSlash h.not_idle
  have hkept : rest.reverse.filterMap Component.ofSegment =
      (segments p.text.toList).reverse.filterMap Component.ofSegment := by
    obtain hrest | hrest := hrest
    · rw [hrest]
    · rw [hrest, List.reverse_cons, List.filterMap_append]
      simp [Component.ofSegment_nil]
  rw [components, hlead, hjoin, List.reverse_cons, List.filterMap_append, hkept, components,
    List.append_assoc]
  simp [Component.ofSegment_name h]

/-- Joining a name in a directory is joining the directory and then the name. -/
theorem join_pair (p : Path) (hd : IsName directory) (hn : IsName name) :
    p.join (pair directory name) = (p.join ⟨directory⟩).join ⟨name⟩ := by
  have hlast : ∀ c ∈ directory.toList.getLast?, c ≠ '/' := by
    rintro c hc rfl
    exact hd.noSlash (List.mem_of_getLast? hc)
  have hanchored : anchored (anchored p.text.toList ++ directory.toList) =
      anchored p.text.toList ++ directory.toList ++ ['/'] := by
    rcases List.eq_nil_or_concat directory.toList with hnil | ⟨cs, c, hc⟩
    · exact absurd hnil hd.toList_ne_nil
    · rw [List.concat_eq_append] at hc
      have hne : c ≠ '/' := hlast c (by simp [hc])
      rw [hc, ← List.append_assoc, anchored, List.getLast?_concat]
      simp [hne]
  have hjoined : (p.join ⟨directory⟩).text.toList = anchored p.text.toList ++ directory.toList :=
    toList_join p hd.not_absolute
  have htext : (p.join (pair directory name)).text.toList =
      ((p.join ⟨directory⟩).join ⟨name⟩).text.toList := by
    rw [toList_join p (pair_not_absolute hd), toList_join _ hn.not_absolute, hjoined, hanchored,
      toList_pair]
    simp
  exact congrArg Path.mk (String.toList_inj.1 htext)

/-- A name in a directory that is joined to a path is two components more. -/
theorem components_join_pair (p : Path) (hd : IsName directory) (hn : IsName name) :
    (p.join (pair directory name)).components = p.components ++ [.down directory, .down name] := by
  rw [join_pair p hd hn, components_join _ hn, components_join p hd, List.append_assoc]
  rfl

/-- A name in a directory has two components. -/
theorem components_pair (hd : IsName directory) (hn : IsName name) :
    (pair directory name).components = [.down directory, .down name] := by
  have hjoin : (⟨""⟩ : Path).join (pair directory name) = pair directory name := by
    have hrelative := @pair_not_absolute directory name hd
    have htext := toList_join ⟨""⟩ hrelative
    exact congrArg Path.mk (String.toList_inj.1 (htext.trans (List.nil_append _)))
  have hempty : (⟨""⟩ : Path).components = [] := by decide
  rw [← hjoin, components_join_pair _ hd hn, hempty, List.nil_append]

/-- The name at the end of a path to an entry of a directory, seen from a root. -/
theorem fileName?_join_pair (root : Path) (hd : IsName directory) (hn : IsName name) :
    (root.join (pair directory name)).fileName? = some name := by
  obtain ⟨-, rest, hjoin, -⟩ :=
    lead_segments_join (root.join ⟨directory⟩) hn.noSlash hn.not_idle
  rw [join_pair root hd hn, fileName?, hjoin, List.dropWhile_cons_of_neg (by simp [hn.not_idle])]
  simp [hn.toList_ne_points]

end Groundwork.Path
