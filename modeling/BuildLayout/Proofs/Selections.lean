import Mathlib.Data.List.Perm.Subperm
import BuildLayout.Proofs.Reports

/-! # Selections of variants

    A project may drop variants and declare the others in another order.  What is asked of a
    project speaks of its variants one by one or of any two of them, never of their order, so a
    selection of acceptable variants is acceptable (`Acceptable.of_subperm`): the scan that
    remembers who came first in a directory does not show from outside.  And the report on a
    variant is made from the variant and the project around it, so it does not change
    (`reports_of_subperm`). -/

namespace BuildLayout

variable {p : Project} {given : List (String × RawValue)} {variants : List Identity}

namespace Project

/-- **SELECTIONS ARE ACCEPTED**: what an acceptable project asks of its variants holds of any
    of them, in any order. -/
theorem Acceptable.of_subperm (h : p.Acceptable given) (hsub : variants.Subperm p.variants) :
    Acceptable { p with variants := variants } given where
  readable := h.readable
  supported := h.supported
  wellFormed i hi := h.wellFormed i (hsub.subset hi)
  distinct := by
    obtain ⟨part, hperm, hsublist⟩ := hsub
    exact hperm.nodup_iff.mp (hsublist.nodup h.distinct)
  apart haware i hi j hj := h.apart haware i (hsub.subset hi) j (hsub.subset hj)

end Project

namespace Session

variable {s : Session}

/-- The session over a selection has the same snapshot and, for each variant in it, the same
    resolver. -/
theorem configure_of_subperm (h : configure p given = .ok s)
    (hsub : variants.Subperm p.variants) :
    configure { p with variants := variants } given
      = .ok ⟨{ p with variants := variants }, s.snapshot,
          variants.map (p.resolver s.snapshot)⟩ := by
  obtain ⟨hp, hlayers, -, -⟩ := configure_eq_ok_iff.mp h
  exact configure_eq_ok_iff.mpr ⟨hp.of_subperm hsub, hlayers, rfl, rfl⟩

/-- **REPORTS DO NOT LOOK SIDEWAYS**: a project that declares some of the variants of an open
    session, in any order, opens too, and each of its variants has the report that it has
    there. -/
theorem reports_of_subperm (h : configure p given = .ok s)
    (hsub : variants.Subperm p.variants) :
    ∃ t, configure { p with variants := variants } given = .ok t
      ∧ ∃ reports selected : List Report, s.reports = .ok reports ∧ t.reports = .ok selected
        ∧ reports.length = p.variants.length ∧ selected.length = variants.length
        ∧ ∀ (n : Nat) (i : Identity), variants[n]? = some i →
            (∃ m : Nat, p.variants[m]? = some i)
              ∧ ∀ m : Nat, p.variants[m]? = some i →
                  ∃ report : Report, reports[m]? = some report ∧ selected[n]? = some report := by
  have hopen := configure_of_subperm h hsub
  refine ⟨_, hopen, _, _, reports_eq_ok h, reports_eq_ok hopen, List.length_map _,
    List.length_map _, ?_⟩
  intro n i hi
  refine ⟨List.mem_iff_getElem?.mp (hsub.subset (List.mem_of_getElem? hi)), ?_⟩
  intro m hm
  refine ⟨(p.resolver s.snapshot i).summary p.archivesName, ?_, ?_⟩
  · rw [List.getElem?_map, hm]
    rfl
  · rw [List.getElem?_map, hi]
    rfl

/-- A project with a split and its variant, a test of that and another flavor. -/
def storeProject : Project where
  variants :=
    [{ buildType := some "debug", flavors := [⟨"tier", "free"⟩], split := some "hdpi" },
     { buildType := some "debug", flavors := [⟨"tier", "free"⟩] },
     { buildType := some "debug", flavors := [⟨"tier", "free"⟩], component := .androidTest },
     { buildType := some "debug", flavors := [⟨"tier", "paid"⟩] }]

/-- The variants of the project without its split, the last one first. -/
def storeSelection : List Identity :=
  [{ buildType := some "debug", flavors := [⟨"tier", "paid"⟩] },
   { buildType := some "debug", flavors := [⟨"tier", "free"⟩], component := .androidTest },
   { buildType := some "debug", flavors := [⟨"tier", "free"⟩] }]

theorem reports_of_subperm_storeSelection :
    ∃ s, configure storeProject [] = .ok s ∧ storeSelection.Subperm storeProject.variants
      ∧ ∃ t, configure { storeProject with variants := storeSelection } [] = .ok t
        ∧ ∃ reports selected : List Report, s.reports = .ok reports ∧ t.reports = .ok selected
          ∧ ∃ report : Report, reports[1]? = some report ∧ selected[2]? = some report := by
  have hopen : configure storeProject []
      = .ok ⟨storeProject, ⟨[]⟩, storeProject.resolvers ⟨[]⟩⟩ := by rfl
  have hsub : storeSelection.Subperm storeProject.variants := by decide
  obtain ⟨t, ht, reports, selected, hreports, hselected, -, -, hsame⟩ :=
    reports_of_subperm hopen hsub
  exact ⟨_, hopen, hsub, t, ht, reports, selected, hreports, hselected,
    (hsame 2 _ rfl).2 1 rfl⟩

end Session

end BuildLayout
