import BuildLayout.Command.Basic
import BuildLayout.Proofs.Reports

/-! # Printing one variant or all

    A command prints the reports on all variants, or it looks one variant up by its name and
    prints the report on that one.  On the way to all reports no name is looked at, and on the
    way to one report no other is made; still both print the same.  The reports of an open
    session can all be made, and each has the name that its variant is looked up by, so the
    variant that is found is the one whose report comes first under the name
    (`selected_eq_find?`).  Hence what is printed on one variant is read off what is printed on
    all of them (`filtered_paths_agree`). -/

namespace BuildLayout

/-! ## Text -/

theorem closedLines_append (xs ys : List String) :
    closedLines (xs ++ ys) = closedLines xs ++ closedLines ys := by
  simp only [closedLines, List.map_append, String.join_append]

/-- The text on several things is made of the texts on each of them. -/
theorem closedLines_flatMap {α : Type} (f : α → List String) (xs : List α) :
    closedLines (xs.flatMap f) = String.join (xs.map fun x => closedLines (f x)) := by
  induction xs with
  | nil => rfl
  | cons x rest ih =>
      rw [List.flatMap_cons, closedLines_append, ih, List.map_cons, String.join_cons]

/-- Reports as text are one block after the other. -/
theorem renderReports_lines (reports : List Report) :
    renderReports .lines reports
      = String.join (reports.map fun r => renderReports .lines [r]) := by
  simp only [renderReports, List.flatMap_singleton]
  exact closedLines_flatMap Report.lines reports

/-! ## Selections -/

/-- A command that prints paths opens a session and prints what is selected from it. -/
theorem pathsCommand_of_open {files : Files} {project : Location}
    {given : List (String × RawValue)} {s : Session}
    (h : openSession files project given = .ok s) (variant : Option String) (style : Style) :
    pathsCommand files project given variant style
      = (s.selected variant).map (renderReports style) := by
  simp only [pathsCommand, h]
  show (s.selected variant >>= fun reports => pure (renderReports style reports)) = _
  cases s.selected variant <;> rfl

/-- A session is opened at a location on the project that is described there. -/
theorem openSession_eq_ok_iff {files : Files} {project : Location}
    {given : List (String × RawValue)} {s : Session} :
    openSession files project given = .ok s
      ↔ ∃ p, Project.ofFile files (projectFile files project) = .ok p
          ∧ Session.configure p given = .ok s := by
  simp only [openSession]
  cases Project.ofFile files (projectFile files project) with
  | error cause => exact ⟨fun h => (nomatch h), fun ⟨_, h, _⟩ => (nomatch h)⟩
  | ok p =>
      show (Session.configure p given).mapError CommandError.refused = .ok s ↔ _
      rw [mapError_eq_ok_iff]
      constructor
      · exact fun h => ⟨p, rfl, h⟩
      · rintro ⟨_, ⟨rfl⟩, h⟩
        exact h

namespace Session

variable {p : Project} {given : List (String × RawValue)} {s : Session}

/-- The reports that are made one by one are all reports. -/
theorem selected_none (h : configure p given = .ok s) :
    s.selected none = .ok (s.resolvers.map fun r => r.summary p.archivesName) := by
  show (s.resolvers.mapM s.report).mapError _ = _
  rw [mapM_eq_ok fun r hr => report_of_mem h hr]
  rfl

/-- **ONE REPORT FROM ALL**: what is selected under a name is the first report that has it. -/
theorem selected_eq_find? (h : configure p given = .ok s) (n : String) :
    s.selected (some n)
      = ((s.resolvers.map fun r => r.summary p.archivesName).find? (·.fullName == n)).elim
          (.error (.unknownVariant n)) fun report => .ok [report] := by
  -- A report has the name that its variant is looked up by.
  have hnames : ((fun report : Report => report.fullName == n) ∘ fun r : Resolver =>
      r.summary p.archivesName) = fun r => r.variantName == n := rfl
  rw [List.find?_map, hnames]
  simp only [selected, resolver?]
  cases hfound : s.resolvers.find? fun r => r.variantName == n with
  | none => rfl
  | some r =>
      simp only [Option.map_some, report_of_mem h (List.mem_of_find?_eq_some hfound)]
      rfl

end Session

/-- **THE FILTER AGREES**: where the session over a project cannot be opened, a command that
    prints paths fails with the reason, whether or not it is asked for one variant.  Where it
    can, there is one report for each declared variant, in declared order; without a filter the
    command prints them all, as lines block by block; under a name it prints the first report
    that has the name, alone, and fails exactly if there is none. -/
theorem filtered_paths_agree (files : Files) (project : Location)
    (given : List (String × RawValue)) :
    (∀ e, openSession files project given = .error e →
        ∀ variant style, pathsCommand files project given variant style = .error e)
      ∧ ∀ s, openSession files project given = .ok s →
          ∃ reports : List Report,
            s.resolvers.map Resolver.identity = s.project.variants
            ∧ s.resolvers.map s.report = reports.map .ok
            ∧ (∀ style,
                pathsCommand files project given none style = .ok (renderReports style reports))
            ∧ pathsCommand files project given none .lines
                = .ok (String.join (reports.map fun r => renderReports .lines [r]))
            ∧ ∀ n style,
                ((∃ text, pathsCommand files project given (some n) style = .ok text)
                    ↔ ∃ r ∈ reports, r.fullName = n)
                ∧ (∀ r, reports.find? (·.fullName == n) = some r →
                    pathsCommand files project given (some n) style
                      = .ok (renderReports style [r]))
                ∧ ((∀ r ∈ reports, r.fullName ≠ n) →
                    pathsCommand files project given (some n) style
                        = .error (.unknownVariant n)
                      ∧ (CommandError.unknownVariant n).message
                          = "No variant named '" ++ n ++ "'") := by
  refine ⟨?_, ?_⟩
  · intro e he variant style
    simp only [pathsCommand, he]
    rfl
  · intro s hs
    obtain ⟨p, -, hopen⟩ := openSession_eq_ok_iff.mp hs
    have hproject : s.project = p := (Session.configure_eq_ok_iff.mp hopen).2.2.1
    have hall : ∀ style, pathsCommand files project given none style
        = .ok (renderReports style (s.resolvers.map fun r => r.summary p.archivesName)) := by
      intro style
      rw [pathsCommand_of_open hs, Session.selected_none hopen]
      rfl
    refine ⟨s.resolvers.map fun r => r.summary p.archivesName, ?_, ?_, hall, ?_, ?_⟩
    · rw [hproject, Session.map_identity hopen]
    · rw [List.map_map]
      exact List.map_congr_left fun r hr => Session.report_of_mem hopen hr
    · rw [hall, renderReports_lines]
    · intro n style
      rw [pathsCommand_of_open hs, Session.selected_eq_find? hopen]
      generalize s.resolvers.map (fun r => r.summary p.archivesName) = reports
      cases hfound : reports.find? (·.fullName == n) with
      | some r =>
          have hr : r ∈ reports := List.mem_of_find?_eq_some hfound
          have hname : r.fullName = n := key_of_find? hfound
          refine ⟨⟨fun _ => ⟨r, hr, hname⟩, fun _ => ⟨_, rfl⟩⟩, ?_, ?_⟩
          · rintro _ ⟨rfl⟩
            rfl
          · exact fun hnone => absurd hname (hnone r hr)
      | none =>
          have hnone : ∀ r ∈ reports, r.fullName ≠ n := by
            intro r hr hname
            exact List.find?_eq_none.mp hfound r hr (beq_iff_eq.mpr hname)
          refine ⟨⟨?_, ?_⟩, ?_, ?_⟩
          · rintro ⟨text, htext⟩
            exact nomatch htext
          · rintro ⟨r, hr, hname⟩
            exact absurd hname (hnone r hr)
          · rintro r hr
            exact nomatch hr
          · exact fun _ => ⟨rfl, rfl⟩

/-- A project whose two variants go by one name. -/
def twinShop : Project where
  directory := ⟨"shop"⟩
  variants :=
    [{ flavors := [⟨"tier", "free"⟩], buildType := some "debug" },
     { flavors := [⟨"tier", "freeDebug"⟩] }]

/-- The description of the project. -/
def twinText : String :=
  "[[variants]]\nbuild_type = \"debug\"\n"
    ++ "flavors = [\x7b dimension = \"tier\", name = \"free\" \x7d]\n"
    ++ "[[variants]]\nflavors = [\x7b dimension = \"tier\", name = \"freeDebug\" \x7d]\n"

/-- The description in a file of the usual name. -/
def twinFiles : Files := fun l =>
  if l = ⟨"shop"⟩ then .directory
  else if l = ⟨"shop/rdroid-variants.toml"⟩ then .file twinText.toUTF8
  else .nothing .absent

/-- Under their common name the first of the two is printed. -/
theorem filtered_paths_agree_twinFiles :
    openSession twinFiles ⟨"shop"⟩ [] = .ok ⟨twinShop, ⟨[]⟩, twinShop.resolvers ⟨[]⟩⟩
      ∧ ∃ a b : Report, a.fullName = "freeDebug" ∧ b.fullName = "freeDebug" ∧ a ≠ b
        ∧ (∀ style, pathsCommand twinFiles ⟨"shop"⟩ [] none style
            = .ok (renderReports style [a, b]))
        ∧ (∀ style, pathsCommand twinFiles ⟨"shop"⟩ [] (some "freeDebug") style
            = .ok (renderReports style [a]))
        ∧ ∀ style, pathsCommand twinFiles ⟨"shop"⟩ [] (some "free") style
            = .error (.unknownVariant "free") := by
  have hopen : openSession twinFiles ⟨"shop"⟩ []
      = .ok ⟨twinShop, ⟨[]⟩, twinShop.resolvers ⟨[]⟩⟩ := by
    refine toOption_eq_some_iff.mp ?_
    decide +kernel
  obtain ⟨reports, -, hreports, hall, -, hnamed⟩ :=
    (filtered_paths_agree twinFiles ⟨"shop"⟩ []).2 _ hopen
  -- Both reports can be made, so they are the ones that are printed.
  have hmade : (twinShop.resolvers ⟨[]⟩).map
      (Session.report ⟨twinShop, ⟨[]⟩, twinShop.resolvers ⟨[]⟩⟩) = List.map .ok [_, _] := rfl
  have hlist : reports = [_, _] :=
    List.map_injective_iff.mpr (fun _ _ h => Except.ok.inj h) (hreports.symm.trans hmade)
  subst hlist
  refine ⟨hopen, _, _, rfl, rfl, by decide, hall, fun style => ?_, fun style => ?_⟩
  · exact (hnamed "freeDebug" style).2.1 _ rfl
  · refine ((hnamed "free" style).2.2 ?_).1
    decide

end BuildLayout
