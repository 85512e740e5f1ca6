import Groundwork.Proofs.Files.Gap

/-!
# Founding a directory

Where a path leads to nothing, a directory is made along with those above it that are missing. If no
step leads up, these are above it in the tree as well, so that they are all that is made
(`Rooted.founds_of_makeDirectories`). What is done below the new directory from then on leaves the
tree around it as it is (`Founds.trans`).
-/

namespace Groundwork.FileTree

open Text Groundwork.Path Workspace

variable {t t' t'' : FileTree} {place : Location} {contents contents' : Contents}

/-- What some steps lead to is at or above what they lead to with more steps. -/
theorem under_suffix (here : Location) (steps more : List String) :
    under here steps <:+ under here (steps ++ more) := by
  rw [under, under, List.filter_append, List.reverse_append, List.append_assoc]
  exact List.suffix_append _ _

/-- What is above a directory are directories. -/
theorem Rooted.directory_of_suffix (h : t.Rooted) {location : Location}
    (hp : t.entry? place = some .directory) (hs : location <:+ place) :
    t.entry? location = some .directory := by
  induction place with
  | nil =>
    rw [List.suffix_nil.1 hs]
    rfl
  | cons name above ih =>
    rcases List.suffix_cons_iff.1 hs with rfl | hs
    · exact hp
    · exact ih (h name above _ hp) hs

/-- A directory has been made where nothing was, along with those above it that were missing: it
holds just the contents, and everything else is as it was. -/
structure Founds (t t' : FileTree) (place : Location) (contents : Contents) : Prop
    extends t'.Holds place contents where
  /-- Nothing was there. -/
  free : t.entry? place = none
  /-- What is above are directories. -/
  above : ∀ location, location <:+ place → t'.entry? location = some .directory
  /-- Neither above nor below has anything changed. -/
  elsewhere : ∀ location, ¬location <:+ place → ¬place <:+ location →
    t'.entry? location = t.entry? location

/-- An empty directory has been made if nothing was made but it and what is above it. -/
theorem ExtendsIn.founds (h : t.ExtendsIn (· <:+ place) t') (hh : t'.Holds place [])
    (hfree : t.entry? place = none) : t.Founds t' place [] where
  toHolds := hh
  free := hfree
  above _ hs := h.rooted.directory_of_suffix hh.directory hs
  elsewhere location hs _ := by
    rcases he : t'.entry? location with _ | entry
    · exact (h.extension.entry?_eq_none he).symm
    · obtain hold | ⟨-, hmade⟩ := h.made location entry he
      · exact hold.symm
      · exact absurd hmade hs

/-- A new directory that is filled from then on. -/
theorem Founds.trans (h : t.Founds t' place contents) (h' : t'.Fills t'' place contents') :
    t.Founds t'' place contents' where
  toHolds := h'.toHolds
  free := h.free
  above location hs := by
    by_cases hp : place <:+ location
    · obtain rfl : location = place := hs.eq_of_length_le hp.length_le
      exact h'.directory
    · exact (h'.outside location hp).trans (h.above location hs)
  elsewhere location hs hp := (h'.outside location hp).trans (h.elsewhere location hs hp)

end Groundwork.FileTree

namespace Groundwork

open Text Groundwork.Path Workspace FileTree

variable {w w' : Workspace} {p : Path} {name : String}

/-- Where a path led to nothing, a directory that could be made with those above it is all that has
been made with them, unless the path leads up from where nothing was. -/
theorem FileTree.Rooted.founds_of_makeDirectories (hr : w.files.Rooted)
    (hup : w.files.NoUpFromMissing p) (hf : p.fileName? = some name)
    (hno : w.files.has p = false)
    (h : (FileStore.makeDirectories p : StateM Workspace (Except FileError Unit)) w =
      (.ok (), w')) :
    ∃ above links here, w'.files.Awaits p name above links here ∧
      w.files.Founds w'.files (name :: here) [] := by
  obtain ⟨above, links, here, ha, hh, hnone⟩ := hr.holds_of_makeDirectories hup hf hno h
  refine ⟨above, links, here, ha, ?_⟩
  by_cases hgap : ∃ init first rest links here, w.files.Gap p.steps init first rest links here
  · obtain ⟨init, first, rest, links', here', hgap⟩ := hgap
    have hrest := hup init first rest links' here' hgap
    have hmakes : ∀ q ∈ p.ancestors,
        Keeps (Preserves (w.files.ExtendsIn (· <:+ under here' (first :: rest))))
          (FileStore.makeDirectory q : StateM Workspace (Except FileError Unit)) := by
      intro q hq
      obtain ⟨extra, hsteps⟩ := steps_of_mem_ancestors hq
      refine keeps_change fun t t' hm ht =>
        hgap.extendsIn_makeDirectory hr hrest hsteps (fun front hfront => ?_) ht hm
      rw [hfront]
      exact under_suffix here' (first :: front) extra
    have hkept := keeps_makeDirectories_of hmakes w
    rw [h] at hkept
    have hextends := hkept (hr.extendsIn _)
    have hres : w'.files.resolve .look p =
        .ok ⟨name :: here, w'.files.entry? (name :: here), p.endsWithSlash⟩ :=
      ha.resolve_eq rfl (by simp [hh.directory])
    have hplace : name :: here = under here' (first :: rest) :=
      hgap.location_of_resolve hr hrest hextends.extension hextends.linkless rfl hres
    rw [← hplace] at hextends
    exact hextends.founds hh hnone
  · -- nothing has been made at all
    simp only [not_exists] at hgap
    have hkept := keeps_makeDirectories_of (fun q hq => hr.keeps_makeDirectory hgap hq) w
    rw [h] at hkept
    have hsame : w'.files = w.files := hkept rfl
    cases (hsame ▸ hnone).symm.trans hh.directory

end Groundwork
