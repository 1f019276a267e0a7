import Mathlib.Data.List.Forall2
import BuildLayout.Command.Line
import BuildLayout.Proofs.Commands
import BuildLayout.Proofs.LastValues

/-! # Property values given for a run

    An argument is a name and a value with an equals sign between them; the name is not empty
    and ends at the first sign (`Gives`).  A command reads its arguments before it looks at
    anything else.  If one of them is malformed, the first such is all that the command says,
    so runs on different projects and files cannot be told apart (`run_of_malformed`).
    Otherwise it works on the session that is configured with all the pairs, in order, and in
    that session a name has the value of its last argument, whatever other arguments or the
    project itself say about it (`Counts`, `arguments_given_for_run`). -/

namespace BuildLayout

/-! ## One argument -/

/-- The argument gives the value to the name. -/
inductive Gives : String → String × RawValue → Prop where
  | value {name : String} (named : name ≠ "") (first : '=' ∉ name.toList) (value : String) :
      Gives (name ++ "=" ++ value) (name, .text value)

/-- No character of a text without the sign is where the text is taken apart. -/
theorem bne_sign_of_notMem {s : String} (h : '=' ∉ s.toList) :
    ∀ c ∈ s.toList, (c != '=') = true := by
  intro c hc
  rw [bne_iff_ne]
  rintro rfl
  exact h hc

/-- An argument is taken apart at its first equals sign. -/
theorem givenProperty_split {name : String} (hname : '=' ∉ name.toList) (value : String) :
    givenProperty (name ++ "=" ++ value)
      = if name = "" then .error (.malformedProperty (name ++ "=" ++ value))
        else .ok (name, .text value) := by
  have hargument : (name ++ "=" ++ value).toList = name.toList ++ '=' :: value.toList := by
    rw [String.toList_append, String.toList_append, List.append_assoc]
    rfl
  have hfront := bne_sign_of_notMem hname
  have htake : (name ++ "=" ++ value).toList.takeWhile (· != '=') = name.toList := by
    rw [hargument, List.takeWhile_append_of_pos hfront]
    exact List.append_nil _
  have hdrop : (name ++ "=" ++ value).toList.dropWhile (· != '=') = '=' :: value.toList := by
    rw [hargument, List.dropWhile_append_of_pos hfront]
    rfl
  simp only [givenProperty, htake, hdrop, List.isEmpty_iff, String.toList_eq_nil_iff,
    String.ofList_toList]

theorem givenProperty_append {name : String} (hne : name ≠ "") (hname : '=' ∉ name.toList)
    (value : String) : givenProperty (name ++ "=" ++ value) = .ok (name, .text value) := by
  rw [givenProperty_split hname, if_neg hne]

/-- An argument without the sign is refused. -/
theorem givenProperty_of_notMem {argument : String} (h : '=' ∉ argument.toList) :
    givenProperty argument = .error (.malformedProperty argument) := by
  have hdrop : (argument.toList ++ []).dropWhile (· != '=') = [] :=
    List.dropWhile_append_of_pos (bne_sign_of_notMem h)
  rw [List.append_nil] at hdrop
  simp only [givenProperty, hdrop]

/-- An argument gives a value to a name, or it is refused as it stands. -/
theorem gives_or_malformed (argument : String) :
    (∃ g, Gives argument g) ∨ givenProperty argument = .error (.malformedProperty argument) := by
  by_cases hsign : '=' ∈ argument.toList
  · obtain ⟨front, back, hsplit, hfirst⟩ := List.eq_append_cons_of_mem hsign
    have hargument : argument = String.ofList front ++ "=" ++ String.ofList back := by
      refine String.toList_injective ?_
      simp only [hsplit, String.toList_append, String.toList_ofList, List.append_assoc]
      rfl
    have hname : '=' ∉ (String.ofList front).toList := by
      rw [String.toList_ofList]
      exact hfirst
    rw [hargument]
    by_cases hempty : String.ofList front = ""
    · refine Or.inr ?_
      rw [givenProperty_split hname, if_pos hempty]
    · exact Or.inl ⟨_, .value hempty hname _⟩
  · exact Or.inr (givenProperty_of_notMem hsign)

/-- **ARGUMENTS** are taken exactly if they give a value to a name. -/
theorem givenProperty_eq_ok_iff {argument : String} {g : String × RawValue} :
    givenProperty argument = .ok g ↔ Gives argument g := by
  have htaken : ∀ {g}, Gives argument g → givenProperty argument = .ok g := by
    rintro _ ⟨named, first, value⟩
    exact givenProperty_append named first value
  refine ⟨fun h => ?_, htaken⟩
  rcases gives_or_malformed argument with ⟨g', hg⟩ | hmalformed
  · rw [htaken hg] at h
    rw [← Except.ok.inj h]
    exact hg
  · rw [hmalformed] at h
    exact nomatch h

theorem givenProperty_of_malformed {argument : String} (h : ∀ g, ¬ Gives argument g) :
    givenProperty argument = .error (.malformedProperty argument) :=
  (gives_or_malformed argument).resolve_left fun ⟨g, hg⟩ => h g hg

/-! ## All arguments -/

/-- The first of the arguments that gives nothing. -/
def FirstMalformed (arguments : List String) (bad : String) : Prop :=
  ∃ front back, arguments = front ++ bad :: back ∧ (∀ a ∈ front, ∃ g, Gives a g)
    ∧ ∀ g, ¬ Gives bad g

/-- A traversal ends with the first failure. -/
theorem mapM_eq_error_of_append {α β ε : Type} {f : α → Except ε β} {front back : List α} {x : α}
    {e : ε} (hfront : ∀ y ∈ front, ∃ b, f y = .ok b) (hx : f x = .error e) :
    (front ++ x :: back).mapM f = .error e := by
  induction front with
  | nil =>
      rw [List.nil_append, List.mapM_cons, hx]
      rfl
  | cons y rest ih =>
      obtain ⟨b, hb⟩ := hfront y (List.mem_cons_self ..)
      rw [List.cons_append, List.mapM_cons, hb, ih fun z hz => hfront z (List.mem_cons_of_mem _ hz)]
      rfl

/-- Where every part has its outcome, so has the whole. -/
theorem mapM_eq_ok_of_forall₂ {α β ε : Type} {f : α → Except ε β} {xs : List α} {ys : List β}
    (h : List.Forall₂ (fun x y => f x = .ok y) xs ys) : xs.mapM f = .ok ys := by
  induction h with
  | nil => rfl
  | cons hx hrest ih =>
      rw [List.mapM_cons, hx, ih]
      rfl

/-- The arguments all give something, or there is a first that does not. -/
theorem taken_or_firstMalformed (arguments : List String) :
    (∃ given, List.Forall₂ Gives arguments given) ∨ ∃ bad, FirstMalformed arguments bad := by
  induction arguments with
  | nil => exact Or.inl ⟨[], .nil⟩
  | cons a rest ih =>
      by_cases ha : ∃ g, Gives a g
      · obtain ⟨g, hg⟩ := ha
        rcases ih with ⟨given, hgiven⟩ | ⟨bad, front, back, rfl, hfront, hbad⟩
        · exact Or.inl ⟨g :: given, .cons hg hgiven⟩
        · have hfirst : ∀ b ∈ a :: front, ∃ given, Gives b given :=
            List.forall_mem_cons.mpr ⟨⟨g, hg⟩, hfront⟩
          exact Or.inr ⟨bad, a :: front, back, rfl, hfirst, hbad⟩
      · exact Or.inr ⟨a, [], rest, rfl, fun _ h => (nomatch h), not_exists.mp ha⟩

/-! ## Commands -/

namespace Request

/-- What the request prints on an open session. -/
def printed (r : Request) (s : Session) : Except CommandError String :=
  match r.topic with
  | .paths variant => (s.selected variant).map (renderReports r.style)
  | .properties => .ok (renderProperties r.style s.snapshot)

variable {r : Request}

/-- **MALFORMED ARGUMENTS COME FIRST**: the project and the files are not looked at. -/
theorem run_of_malformed {bad : String} (h : FirstMalformed r.arguments bad) (files : Files) :
    r.run files = .error (.malformedProperty bad) := by
  obtain ⟨front, back, harguments, hfront, hbad⟩ := h
  have hread : r.arguments.mapM givenProperty = .error (.malformedProperty bad) := by
    rw [harguments]
    refine mapM_eq_error_of_append ?_ (givenProperty_of_malformed hbad)
    intro a ha
    obtain ⟨g, hg⟩ := hfront a ha
    exact ⟨g, givenProperty_eq_ok_iff.mpr hg⟩
  simp only [run, hread]
  rfl

/-- **ALL PAIRS, IN ORDER**: the request is answered from the session that they give. -/
theorem run_of_given {given : List (String × RawValue)}
    (h : List.Forall₂ Gives r.arguments given) (files : Files) :
    r.run files = (openSession files r.project given).bind r.printed := by
  have hread : r.arguments.mapM givenProperty = .ok given :=
    mapM_eq_ok_of_forall₂ (h.imp fun _ _ => givenProperty_eq_ok_iff.mpr)
  obtain ⟨topic, project, arguments, style⟩ := r
  simp only [run, hread]
  cases topic with
  | paths variant =>
      show pathsCommand files project given variant style = _
      cases hopen : openSession files project given with
      | error e =>
          simp only [pathsCommand, hopen]
          rfl
      | ok s => exact pathsCommand_of_open hopen variant style
  | properties =>
      show propertiesCommand files project given style = _
      simp only [propertiesCommand]
      cases openSession files project given <;> rfl

end Request

/-- The one line that the program says of a malformed argument. -/
theorem CommandLine.failureText_malformedProperty (argument : String) :
    failureText (.malformedProperty argument)
      = "Error: Expected a project property as name=value, got '" ++ argument ++ "'\n" := by
  have hstart : "Error: Expected a project property as name=value, got '"
      = "Error: " ++ "Expected a project property as name=value, got '" := by decide
  have hclose : "'\n" = "'" ++ "\n" := by decide
  show String.join ["Error: " ++ ("Expected a project property as name=value, got '"
    ++ argument ++ "'") ++ "\n"] = _
  rw [String.join_cons, String.join_nil, String.append_empty, hstart, hclose]
  simp only [String.append_assoc]

/-! ## Values that count -/

/-- What a name has at last: the value of the last argument for it, and only without one the
    last value that the project has for it. -/
inductive Counts (own given : List (String × RawValue)) (name : String) :
    RawValue → String → Prop where
  | given {front back : List (String × RawValue)} {v : RawValue}
      (h : given = front ++ (name, v) :: back) (last : name ∉ back.map Prod.fst) :
      Counts own given name v "command line"
  | own {front back : List (String × RawValue)} {v : RawValue}
      (unset : name ∉ given.map Prod.fst) (h : own = front ++ (name, v) :: back)
      (last : name ∉ back.map Prod.fst) :
      Counts own given name v "project file"

/-- What counts is found by a search from the end, first among what is given for the run. -/
theorem counts_iff {own given : List (String × RawValue)} {name source : String} {v : RawValue} :
    Counts own given name v source
      ↔ (given.reverse.find? (·.1 == name) = some (name, v) ∧ source = "command line")
        ∨ (given.reverse.find? (·.1 == name) = none
            ∧ own.reverse.find? (·.1 == name) = some (name, v) ∧ source = "project file") := by
  simp only [find?_reverse_eq_some_iff Prod.fst, find?_reverse_eq_none_iff Prod.fst, true_and]
  constructor
  · rintro (⟨h, last⟩ | ⟨unset, h, last⟩)
    · exact Or.inl ⟨⟨_, _, h, last⟩, rfl⟩
    · exact Or.inr ⟨unset, ⟨_, _, h, last⟩, rfl⟩
  · rintro (⟨⟨front, back, h, last⟩, rfl⟩ | ⟨unset, ⟨front, back, h, last⟩, rfl⟩)
    · exact .given h last
    · exact .own unset h last

/-- The last assignment of a layer to a name has the last value under the name. -/
theorem Layer.find?_reverse_assignments (l : Layer) (name : String) :
    l.assignments.reverse.find? (·.name == name)
      = (l.values.reverse.find? (·.1 == name)).map fun g => ⟨g.1, g.2, l.source⟩ := by
  rw [Layer.assignments, ← List.map_reverse, List.find?_map]
  rfl

namespace Project

variable {p : Project} {own given given' : List (String × RawValue)} {name : String}

/-- The layers of a run say last what counts. -/
theorem last?_layers_eq_some_iff {a : Assignment} :
    Assignment.last? (p.layers given) name = some a
      ↔ a.name = name ∧ Counts p.properties given name a.value a.source := by
  have hlayers : ((p.layers given).flatMap Layer.assignments).reverse
      = (Layer.mk "command line" given).assignments.reverse
        ++ (Layer.mk "project file" p.properties).assignments.reverse := by
    rw [← List.reverse_append]
    simp only [layers, List.flatMap_cons, List.flatMap_nil, List.append_nil]
  rw [Assignment.last?_eq_find?, hlayers, List.find?_append, Layer.find?_reverse_assignments,
    Layer.find?_reverse_assignments, counts_iff]
  obtain ⟨n, v, source⟩ := a
  cases hgiven : given.reverse.find? (·.1 == name) with
  | some g =>
      have hname : g.1 = name := key_of_find? hgiven
      subst hname
      grind
  | none =>
      cases hown : p.properties.reverse.find? (·.1 == name) with
      | some g =>
          have hname : g.1 = name := key_of_find? hown
          subst hname
          grind
      | none => grind

/-- Layers in which the same values count have the same snapshot, or fail for the same reason. -/
theorem ofLayers_eq_of_counts
    (h : ∀ name v source,
      Counts own given' name v source ↔ Counts p.properties given name v source) :
    Snapshot.ofLayers ({ p with properties := own }.layers given')
      = Snapshot.ofLayers (p.layers given) := by
  refine Snapshot.ofLayers_eq_of_last? fun q => Option.ext fun a => ?_
  rw [last?_layers_eq_some_iff, last?_layers_eq_some_iff, h]

end Project

namespace Session

/-- The entries of a session are those for the values that count. -/
structure SetBy (s : Session) (given : List (String × RawValue)) : Prop where
  entry : ∀ e ∈ s.snapshot.entries,
    Counts s.project.properties given e.key e.raw e.source ∧ e.property.read e.raw = .ok e.setting
  complete : ∀ (q : Property) (v : RawValue) (source : String),
    Counts s.project.properties given q.key v source →
      ∃ e ∈ s.snapshot.entries, e.property = q ∧ e.raw = v ∧ e.source = source

variable {p : Project} {own given given' : List (String × RawValue)} {s : Session}

/-- **LAST ARGUMENTS WIN** in every session that is open. -/
theorem setBy_of_configure (h : configure p given = .ok s) : s.SetBy given := by
  obtain ⟨-, hlayers, hproject, -⟩ := configure_eq_ok_iff.mp h
  have hentry := Snapshot.mem_entries_iff hlayers
  refine ⟨?_, ?_⟩
  · intro e he
    obtain ⟨q, a, hlast, hread, hraw, hsource⟩ := (hentry e).mp he
    obtain ⟨-, hcounts⟩ := Project.last?_layers_eq_some_iff.mp hlast
    have hq : e.property = q := Property.property_of_read hread
    have hkey : e.key = q.key := congrArg Property.key hq
    rw [hproject, hkey, hq, hraw, hsource]
    exact ⟨hcounts, hread⟩
  · intro q v source hcounts
    rw [hproject] at hcounts
    have hlast : Assignment.last? (p.layers given) q.key = some ⟨q.key, v, source⟩ :=
      Project.last?_layers_eq_some_iff.mpr ⟨rfl, hcounts⟩
    obtain ⟨setting, hread⟩ :=
      (Snapshot.exists_ofLayers_iff (p.layers given)).mp ⟨s.snapshot, hlayers⟩ q _ hlast
    exact ⟨⟨setting, v, source⟩, (hentry _).mpr ⟨q, _, hlast, hread, rfl, rfl⟩,
      Property.property_of_read hread, rfl, rfl⟩

/-- **THE OTHERS HAVE NO PART** in a session, whether it opens or not: what does not count could
    as well not be there. -/
theorem configure_eq_of_counts
    (h : ∀ name v source,
      Counts own given' name v source ↔ Counts p.properties given name v source) :
    configure { p with properties := own } given'
      = (configure p given).map fun s => { s with project := { p with properties := own } } := by
  have hlayers := Project.ofLayers_eq_of_counts h
  cases hread : Snapshot.ofLayers (p.layers given) with
  | error e =>
      rw [hread] at hlayers
      simp only [configure, hread, hlayers]
      rfl
  | ok snapshot =>
      rw [hread] at hlayers
      rw [configure_of_layers hread, configure_of_layers hlayers]
      -- The checks on the project do not look at its properties.
      have hrefusal : { p with properties := own }.refusal? snapshot = p.refusal? snapshot := rfl
      rw [hrefusal]
      cases p.refusal? snapshot <;> rfl

end Session

/-- **ARGUMENTS**: one is taken exactly if it is a name that is not empty and has no equals
    sign in it, the sign, and a value.  If some are malformed, a command fails with the first of
    them, the same for all projects and files, and so does the program.  Otherwise it answers
    from the session configured with all the pairs in order, in which the last argument for a
    name replaces the earlier ones and what the project says; these might as well not be there. -/
theorem arguments_given_for_run (arguments : List String) :
    (∀ argument g, givenProperty argument = .ok g ↔ Gives argument g)
      ∧ (∀ bad, FirstMalformed arguments bad →
          (∀ (files : Files) (r : Request), r.arguments = arguments →
            r.run files = .error (.malformedProperty bad))
          ∧ ∀ (files : Files) (line : List String) (r : Request),
              CommandLine.read line = .run r → r.arguments = arguments →
              CommandLine.run files line
                = { code := 1
                    stderr := "Error: Expected a project property as name=value, got '"
                      ++ bad ++ "'\n" })
      ∧ ((∃ bad, FirstMalformed arguments bad) ∨ ∃ given, List.Forall₂ Gives arguments given)
      ∧ ∀ given, List.Forall₂ Gives arguments given →
          (∀ (files : Files) (r : Request), r.arguments = arguments →
            r.run files = (openSession files r.project given).bind r.printed)
          ∧ (∀ (files : Files) (project : Location) (s : Session),
              openSession files project given = .ok s →
                Project.ofFile files (projectFile files project) = .ok s.project
                  ∧ Session.configure s.project given = .ok s ∧ s.SetBy given)
          ∧ ∀ (p : Project) (own given' : List (String × RawValue)),
              (∀ name v source,
                Counts own given' name v source ↔ Counts p.properties given name v source) →
              Session.configure { p with properties := own } given'
                = (Session.configure p given).map fun s =>
                    { s with project := { p with properties := own } } := by
  refine ⟨fun _ _ => givenProperty_eq_ok_iff, ?_, ?_, ?_⟩
  · intro bad hbad
    have hrun : ∀ (files : Files) (r : Request), r.arguments = arguments →
        r.run files = .error (.malformedProperty bad) :=
      fun files r hr => Request.run_of_malformed (hr ▸ hbad) files
    refine ⟨hrun, ?_⟩
    intro files line r hline hr
    simp only [CommandLine.run, hline, hrun files r hr,
      CommandLine.failureText_malformedProperty]
  · exact (taken_or_firstMalformed arguments).symm
  · intro given hgiven
    refine ⟨?_, ?_, fun p own given' => Session.configure_eq_of_counts⟩
    · rintro files r rfl
      exact Request.run_of_given hgiven files
    · intro files project s hopen
      obtain ⟨p, hfile, hconfigure⟩ := openSession_eq_ok_iff.mp hopen
      obtain ⟨-, -, rfl, -⟩ := Session.configure_eq_ok_iff.mp hconfigure
      exact ⟨hfile, hconfigure, Session.setBy_of_configure hconfigure⟩

/-- The description of a project that sets one property, in a file. -/
def workersFiles : Files := fun l =>
  if l = ⟨"shop.toml"⟩ then .file "[options]\n\"android.r8.maxWorkers\" = 2\n".toUTF8
  else .nothing .absent

/-- Arguments of which the last takes the place of the first, and of the project's value. -/
def workersArguments : List String :=
  ["android.r8.maxWorkers=many", "android.injected.apk.location=out=a", "android.r8.maxWorkers=4"]

/-- What they give. -/
def workersGiven : List (String × RawValue) :=
  [("android.r8.maxWorkers", .text "many"), ("android.injected.apk.location", .text "out=a"),
   ("android.r8.maxWorkers", .text "4")]

theorem arguments_given_for_run_workersArguments :
    (FirstMalformed (workersArguments ++ ["=4", "novalue"]) "=4"
        ∧ ∀ (files : Files) (r : Request), r.arguments = workersArguments ++ ["=4", "novalue"] →
            r.run files = .error (.malformedProperty "=4"))
      ∧ List.Forall₂ Gives workersArguments workersGiven
      ∧ ∃ s, openSession workersFiles ⟨"shop.toml"⟩ workersGiven = .ok s ∧ s.SetBy workersGiven
          ∧ s.project.properties = [("android.r8.maxWorkers", .integer 2)]
          ∧ s.snapshot.entries
              = [⟨.text .apkLocation "out=a", .text "out=a", "command line"⟩,
                 ⟨.number .shrinkerWorkers 4, .text "4", "command line"⟩]
          ∧ ∀ r : Request, r.project = ⟨"shop.toml"⟩ → r.arguments = workersArguments →
              r.run workersFiles = r.printed s := by
  have hgiven : List.Forall₂ Gives workersArguments workersGiven :=
    .cons (givenProperty_eq_ok_iff.mp rfl) (.cons (givenProperty_eq_ok_iff.mp rfl)
      (.cons (givenProperty_eq_ok_iff.mp rfl) .nil))
  have hbad : FirstMalformed (workersArguments ++ ["=4", "novalue"]) "=4" := by
    refine ⟨workersArguments, ["novalue"], rfl, ?_, fun g hg => ?_⟩
    · simp only [workersArguments, List.forall_mem_cons]
      exact ⟨⟨_, givenProperty_eq_ok_iff.mp rfl⟩, ⟨_, givenProperty_eq_ok_iff.mp rfl⟩,
        ⟨_, givenProperty_eq_ok_iff.mp rfl⟩, fun _ h => (nomatch h)⟩
    · exact nomatch (givenProperty_eq_ok_iff.mpr hg).symm.trans rfl
  have hopen : openSession workersFiles ⟨"shop.toml"⟩ workersGiven
      = .ok ⟨{ directory := ⟨""⟩, properties := [("android.r8.maxWorkers", .integer 2)] },
          ⟨[⟨.text .apkLocation "out=a", .text "out=a", "command line"⟩,
            ⟨.number .shrinkerWorkers 4, .text "4", "command line"⟩]⟩, []⟩ := by
    refine toOption_eq_some_iff.mp ?_
    decide +kernel
  obtain ⟨-, hmalformed, -⟩ := arguments_given_for_run (workersArguments ++ ["=4", "novalue"])
  obtain ⟨-, -, -, htaken⟩ := arguments_given_for_run workersArguments
  obtain ⟨hrun, hsession, -⟩ := htaken workersGiven hgiven
  refine ⟨⟨hbad, (hmalformed "=4" hbad).1⟩, hgiven, _, hopen, (hsession _ _ _ hopen).2.2, rfl, rfl,
    ?_⟩
  intro r hproject hr
  rw [hrun workersFiles r hr, hproject, hopen]
  rfl

end BuildLayout
