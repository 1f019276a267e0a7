import BuildLayout.Proofs.Words
import BuildLayout.Variant.Tree

/-! # Joined paths

    A segment names one directory: it is not empty and holds neither a slash nor a dot.  A
    text joined from such pieces can be taken apart again, so it determines them; that holds
    for any one-character glue that no piece contains (`eq_piecesAt_intercalate`,
    `intercalate_injective`).

    Walking down from a location segment by segment only ever appends (`joinAll_text`): the
    location reached determines the segments (`joinAll_injective`).  A directory in a category
    that is named by paths of segments, some of them perhaps empty, lies where its segments
    lead, one after the other (`under_paths`). -/

namespace BuildLayout

/-- A text that names one directory. -/
def IsSegment (s : String) : Prop := s ≠ "" ∧ '/' ∉ s.toList ∧ '.' ∉ s.toList

instance (s : String) : Decidable (IsSegment s) :=
  inferInstanceAs (Decidable (s ≠ "" ∧ '/' ∉ s.toList ∧ '.' ∉ s.toList))

/-- A word names a directory. -/
theorem IsWord.isSegment {s : String} (h : IsWord s) : IsSegment s := by
  exact ⟨h.1, h.notMem (by decide), h.notMem (by decide)⟩

/-! ## Texts joined by one character -/

/-- The texts between the occurrences of a character, the empty ones included. -/
def Text.piecesAt (c : Char) (text : String) : List String :=
  (text.toList.splitOn c).map String.ofList

/-- Only joining nothing gives nothing, if no piece is empty. -/
theorem intercalate_eq_empty_iff {glue : String} {xs : List String} (hx : ∀ x ∈ xs, x ≠ "") :
    glue.intercalate xs = "" ↔ xs = [] := by
  constructor
  · intro h
    cases xs with
    | nil => rfl
    | cons x rest =>
        have hx0 : x ≠ "" := hx x (List.mem_cons_self ..)
        cases rest with
        | nil =>
            rw [String.intercalate_singleton] at h
            exact absurd h hx0
        | cons y rest =>
            rw [String.intercalate_cons_cons, String.append_assoc] at h
            exact absurd (String.append_eq_empty_iff.mp h).1 hx0
  · rintro rfl
    exact String.intercalate_nil

/-- Splitting at the glue gives the pieces back. -/
theorem piecesAt_intercalate {c : Char} {xs : List String} (hne : xs ≠ [])
    (hx : ∀ x ∈ xs, c ∉ x.toList) :
    Text.piecesAt c ((String.singleton c).intercalate xs) = xs := by
  have hsplit : ((String.singleton c).intercalate xs).toList.splitOn c
      = xs.map String.toList := by
    rw [String.toList_intercalate, String.toList_singleton]
    refine List.splitOn_intercalate c ?_ ?_
    · intro l hl
      obtain ⟨x, hmem, rfl⟩ := List.mem_map.mp hl
      exact hx x hmem
    · intro h
      exact hne (List.map_eq_nil_iff.mp h)
  show (((String.singleton c).intercalate xs).toList.splitOn c).map String.ofList = xs
  rw [hsplit, List.map_map]
  exact List.map_id'' (fun x => String.ofList_toList) xs

/-- **PIECES READ OFF**: pieces that are there and free of the glue are those of the joined
    text, and no text is joined from no piece only. -/
theorem eq_piecesAt_intercalate {c : Char} {xs : List String}
    (hx : ∀ x ∈ xs, x ≠ "" ∧ c ∉ x.toList) :
    xs = if (String.singleton c).intercalate xs = "" then []
      else Text.piecesAt c ((String.singleton c).intercalate xs) := by
  by_cases hxs : xs = []
  · subst hxs
    rw [if_pos String.intercalate_nil]
  · have hjoined : (String.singleton c).intercalate xs ≠ "" := by
      intro h
      exact hxs ((intercalate_eq_empty_iff fun x hm => (hx x hm).1).mp h)
    rw [if_neg hjoined, piecesAt_intercalate hxs fun x hm => (hx x hm).2]

/-- **UNIQUE PIECES**: pieces that are there and free of the glue can be read off the joined
    text. -/
theorem intercalate_injective {c : Char} {xs ys : List String}
    (hx : ∀ x ∈ xs, x ≠ "" ∧ c ∉ x.toList) (hy : ∀ y ∈ ys, y ≠ "" ∧ c ∉ y.toList)
    (h : (String.singleton c).intercalate xs = (String.singleton c).intercalate ys) :
    xs = ys := by
  rw [eq_piecesAt_intercalate hx, h, ← eq_piecesAt_intercalate hy]

/-- A character of a joined text stands in the glue or in a piece. -/
theorem mem_toList_intercalate {glue : String} {xs : List String} {c : Char}
    (h : c ∈ (glue.intercalate xs).toList) : c ∈ glue.toList ∨ ∃ x ∈ xs, c ∈ x.toList := by
  induction xs with
  | nil => exact absurd h (by rw [String.intercalate_nil]; exact List.not_mem_nil)
  | cons x rest ih =>
      by_cases hrest : rest = []
      · subst hrest
        rw [String.intercalate_singleton] at h
        exact Or.inr ⟨x, List.mem_cons_self .., h⟩
      · rw [String.intercalate_cons_of_ne_nil hrest, String.toList_append,
          String.toList_append] at h
        rcases List.mem_append.mp h with hfront | hrear
        · rcases List.mem_append.mp hfront with hx | hglue
          · exact Or.inr ⟨x, List.mem_cons_self .., hx⟩
          · exact Or.inl hglue
        · rcases ih hrear with hglue | ⟨y, hy, hc⟩
          · exact Or.inl hglue
          · exact Or.inr ⟨y, List.mem_cons_of_mem _ hy, hc⟩

/-- A piece in the middle of a joined text stands between texts that do not depend on it. -/
theorem intercalate_middle (glue : String) (xs ys : List String) :
    ∃ front rear : String, ∀ s, glue.intercalate (xs ++ s :: ys) = front ++ s ++ rear := by
  have hrear : ∃ rear : String, ∀ s, glue.intercalate (s :: ys) = s ++ rear := by
    by_cases hys : ys = []
    · subst hys
      exact ⟨"", fun s => by rw [String.intercalate_singleton, String.append_empty]⟩
    · refine ⟨glue ++ glue.intercalate ys, fun s => ?_⟩
      rw [String.intercalate_cons_of_ne_nil hys, String.append_assoc]
  obtain ⟨rear, hrear⟩ := hrear
  by_cases hxs : xs = []
  · subst hxs
    exact ⟨"", rear, fun s => by rw [List.nil_append, hrear, String.empty_append]⟩
  · refine ⟨glue.intercalate xs ++ glue, rear, fun s => ?_⟩
    rw [String.intercalate_append_of_ne_nil hxs (List.cons_ne_nil _ _), hrear]
    simp only [String.append_assoc]

/-- What stands in a piece stands in the joined text. -/
theorem mem_toList_intercalate_of_mem {glue x : String} {xs : List String} {c : Char}
    (hx : x ∈ xs) (hc : c ∈ x.toList) : c ∈ (glue.intercalate xs).toList := by
  obtain ⟨before, behind, rfl⟩ := List.append_of_mem hx
  obtain ⟨front, rear, hmid⟩ := intercalate_middle glue before behind
  rw [hmid x, String.toList_append, String.toList_append]
  exact List.mem_append_left _ (List.mem_append_right _ hc)

/-- A joined text can be joined on: its pieces move up. -/
theorem intercalate_intercalate_cons {glue : String} {xs ys : List String} (hne : xs ≠ []) :
    glue.intercalate (glue.intercalate xs :: ys) = glue.intercalate (xs ++ ys) := by
  by_cases hys : ys = []
  · subst hys
    rw [String.intercalate_singleton, List.append_nil]
  · rw [String.intercalate_cons_of_ne_nil hys, String.intercalate_append_of_ne_nil hne hys]

/-- Joined texts behind a first piece can be joined on, and those of no pieces dropped. -/
theorem intercalate_cons_flatten {glue : String} (first : String) {paths : List (List String)}
    (h : ∀ path ∈ paths, ∀ s ∈ path, s ≠ "") :
    glue.intercalate (first :: (paths.map glue.intercalate).filter (· != ""))
      = glue.intercalate (first :: paths.flatten) := by
  induction paths generalizing first with
  | nil => rfl
  | cons path rest ih =>
      have hpath := h path (List.mem_cons_self ..)
      have hrest := fun p hp => h p (List.mem_cons_of_mem _ hp)
      rw [List.map_cons, List.flatten_cons]
      by_cases hnil : path = []
      · subst hnil
        rw [String.intercalate_nil, List.nil_append]
        exact ih first hrest
      · have hkeep : (glue.intercalate path != "") = true := by
          rw [bne_iff_ne]
          exact fun h0 => hnil ((intercalate_eq_empty_iff hpath).mp h0)
        have hcons : path ++ rest.flatten ≠ [] := by
          intro h0
          exact hnil (List.append_eq_nil_iff.mp h0).1
        rw [List.filter_cons_of_pos (p := (· != "")) hkeep,
          String.intercalate_cons_of_ne_nil (List.cons_ne_nil _ _), ih _ hrest,
          intercalate_intercalate_cons hnil, String.intercalate_cons_of_ne_nil hcons]

theorem map_intercalate_singletons (glue : String) (xs : List String) :
    (xs.map fun x => [x]).map glue.intercalate = xs := by
  rw [List.map_map]
  exact List.map_id'' (fun x => String.intercalate_singleton) xs

theorem flatten_singletons (xs : List String) : (xs.map fun x => [x]).flatten = xs := by
  rw [← List.flatMap_def, List.flatMap_singleton']

/-! ## Locations -/

namespace Location

/-- What stands between a location and its next component. -/
def gap (l : Location) : String := if l.isOpen then "" else "/"

/-- A text without a slash is no absolute path. -/
theorem isAbsoluteText_eq_false {s : String} (hs : '/' ∉ s.toList) :
    isAbsoluteText s = false := by
  show (s.toList.head? == some '/') = false
  cases hl : s.toList with
  | nil => rfl
  | cons c rest =>
      have hc : c ≠ '/' := by
        rintro rfl
        exact hs (hl ▸ List.mem_cons_self ..)
      rw [List.head?_cons, beq_eq_false_iff_ne]
      exact fun h => hc (Option.some.inj h)

/-- A path that is not absolute is appended. -/
theorem join_of_relative (base : Location) {path : String} (h : isAbsoluteText path = false) :
    base.join path = ⟨base.text ++ base.gap ++ path⟩ := by
  simp only [join, gap, h]
  rw [if_neg Bool.false_ne_true]
  by_cases hopen : base.isOpen = true
  · rw [if_pos hopen, if_pos hopen, String.append_empty]
  · rw [if_neg hopen, if_neg hopen]

/-- One step down appends a component that has no slash in it, the empty one included. -/
theorem join_eq_append (base : Location) {s : String} (hs : '/' ∉ s.toList) :
    base.join s = ⟨base.text ++ base.gap ++ s⟩ :=
  base.join_of_relative (isAbsoluteText_eq_false hs)

/-- Behind a segment the next component needs a slash. -/
theorem gap_append_segment (front : String) {s : String} (hs : IsSegment s) :
    gap ⟨front ++ s⟩ = "/" := by
  have hne : s.toList ≠ [] := fun h => hs.1 (String.toList_eq_nil_iff.mp h)
  have hlast : (front ++ s).toList.getLast? = some (s.toList.getLast hne) := by
    rw [String.toList_append, List.getLast?_append, List.getLast?_eq_some_getLast hne]
    rfl
  have hopen : isOpen ⟨front ++ s⟩ = false := by
    show (front ++ s == "" || (front ++ s).toList.getLast? == some '/') = false
    rw [hlast, Bool.or_eq_false_iff, beq_eq_false_iff_ne, beq_eq_false_iff_ne]
    refine ⟨fun h => hs.1 (String.append_eq_empty_iff.mp h).2, ?_⟩
    intro h
    exact hs.2.1 (Option.some.inj h ▸ List.getLast_mem hne)
  show (if isOpen ⟨front ++ s⟩ then "" else "/") = "/"
  rw [hopen, if_neg Bool.false_ne_true]

/-- **WALKING DOWN APPENDS**: the segments stand behind the base, joined by slashes. -/
theorem joinAll_text (base : Location) {path : List String} (hne : path ≠ [])
    (hpath : ∀ s ∈ path, IsSegment s) :
    (base.joinAll path).text = base.text ++ base.gap ++ "/".intercalate path := by
  induction path generalizing base with
  | nil => exact absurd rfl hne
  | cons s rest ih =>
      have hs := hpath s (List.mem_cons_self ..)
      show ((base.join s).joinAll rest).text = _
      by_cases hrest : rest = []
      · subst hrest
        rw [String.intercalate_singleton]
        exact congrArg Location.text (join_eq_append base hs.2.1)
      · rw [ih _ hrest fun t ht => hpath t (List.mem_cons_of_mem _ ht),
          join_eq_append base hs.2.1, gap_append_segment _ hs,
          String.intercalate_cons_of_ne_nil hrest]
        simp only [String.append_assoc]

theorem joinAll_append (base : Location) (xs ys : List String) :
    base.joinAll (xs ++ ys) = (base.joinAll xs).joinAll ys :=
  List.foldl_append

/-- Walking down leaves the base. -/
theorem joinAll_ne_self (base : Location) {path : List String} (hne : path ≠ [])
    (hpath : ∀ s ∈ path, IsSegment s) : base.joinAll path ≠ base := by
  intro h
  have htext := joinAll_text base hne hpath
  rw [h, String.append_assoc] at htext
  have hzero : base.gap ++ "/".intercalate path = "" :=
    (String.append_right_inj base.text).mp (htext.symm.trans String.append_empty.symm)
  have hempty := (String.append_eq_empty_iff.mp hzero).2
  exact hne ((intercalate_eq_empty_iff fun s hs => (hpath s hs).1).mp hempty)

/-- **ONE WAY DOWN**: the location reached from a base determines the segments. -/
theorem joinAll_injective (base : Location) {xs ys : List String}
    (hx : ∀ s ∈ xs, IsSegment s) (hy : ∀ s ∈ ys, IsSegment s)
    (h : base.joinAll xs = base.joinAll ys) : xs = ys := by
  -- An empty path leads nowhere; only two paths that lead on are told apart by their texts.
  by_cases hxs : xs = []
  · by_cases hys : ys = []
    · rw [hxs, hys]
    · rw [hxs] at h
      exact absurd h.symm (joinAll_ne_self base hys hy)
  · by_cases hys : ys = []
    · rw [hys] at h
      exact absurd h (joinAll_ne_self base hxs hx)
    · have htext := congrArg Location.text h
      rw [joinAll_text base hxs hx, joinAll_text base hys hy, String.append_right_inj] at htext
      exact intercalate_injective (c := '/') (fun s hs => ⟨(hx s hs).1, (hx s hs).2.1⟩)
        (fun s hs => ⟨(hy s hs).1, (hy s hs).2.1⟩) htext

/-! ## Pieces -/

/-- A text without a slash is one piece. -/
theorem pieces_of_notMem {s : String} (hs : '/' ∉ s.toList) : pieces s = [s] := by
  show (s.toList.splitOn '/').map String.ofList = [s]
  rw [List.splitOn_eq_singleton hs, List.map_singleton, String.ofList_toList]

/-- A slash separates the pieces in front of it from those behind. -/
theorem pieces_append_slash (s t : String) : pieces (s ++ "/" ++ t) = pieces s ++ pieces t := by
  show ((s ++ "/" ++ t).toList.splitOn '/').map String.ofList = _
  have htext : (s ++ "/" ++ t).toList = s.toList ++ '/' :: t.toList := by
    rw [String.toList_append, String.toList_append, List.append_assoc]
    rfl
  rw [htext, List.splitOn_append_cons_self, List.map_append]
  rfl

/-- **PIECES OF PIECES**: a joined text has the pieces of its parts, one part after the
    other. -/
theorem pieces_intercalate {texts : List String} (hne : texts ≠ []) :
    pieces ("/".intercalate texts) = texts.flatMap pieces := by
  induction texts with
  | nil => exact absurd rfl hne
  | cons t rest ih =>
      by_cases hrest : rest = []
      · subst hrest
        rw [String.intercalate_singleton, List.flatMap_singleton]
      · rw [String.intercalate_cons_of_ne_nil hrest, pieces_append_slash, ih hrest,
          List.flatMap_cons]

/-- The pieces of a path joined from segments are the segments. -/
theorem pieces_intercalate_segments {path : List String} (hne : path ≠ [])
    (hpath : ∀ s ∈ path, IsSegment s) : pieces ("/".intercalate path) = path :=
  piecesAt_intercalate (c := '/') hne fun s hs => (hpath s hs).2.1

end Location

/-! ## Directories -/

theorem Category.isSegment_folder (category : Category) : IsSegment category.folder := by
  cases category <;> decide

namespace Directory

/-- The directory that segments lead to from a root. -/
def ofPath (root : Location) (path : List String) : Directory := ⟨root, "/".intercalate path⟩

/-- The directory with a fixed name in a category is the one that the two segments lead to. -/
theorem ofPath_category (root : Location) (category : Category) (name : String) :
    ofPath root [category.folder, name] = category.directory root name := by
  show Directory.mk root ("/".intercalate [category.folder, name])
    = ⟨root, category.folder ++ "/" ++ name⟩
  rw [String.intercalate_cons_cons, String.intercalate_singleton]

/-- A directory named by segments lies where they lead. -/
theorem location_ofPath (root : Location) {path : List String} (hne : path ≠ [])
    (hpath : ∀ s ∈ path, IsSegment s) : (ofPath root path).location = root.joinAll path := by
  have hrel : "/".intercalate path ≠ "" := by
    intro h
    exact hne ((intercalate_eq_empty_iff fun s hs => (hpath s hs).1).mp h)
  show (if "/".intercalate path = "" then root
    else root.joinAll (Location.pieces ("/".intercalate path))) = root.joinAll path
  rw [if_neg hrel, Location.pieces_intercalate_segments hne hpath]

/-- The directory with a fixed name in a category lies below the category. -/
theorem location_category (category : Category) (root : Location) {name : String}
    (hname : IsSegment name) :
    (category.directory root name).location = root.joinAll [category.folder, name] := by
  rw [← ofPath_category]
  refine location_ofPath root (List.cons_ne_nil _ _) ?_
  exact List.forall_mem_cons.mpr
    ⟨category.isSegment_folder, List.forall_mem_singleton.mpr hname⟩

/-- A path of segments has no dot in it. -/
theorem hasDot_intercalate {path : List String} (hpath : ∀ s ∈ path, IsSegment s) :
    hasDot ("/".intercalate path) = false := by
  show ("/".intercalate path).toList.any (· == '.') = false
  rw [List.any_eq_false]
  intro c hc hdot
  rw [beq_iff_eq] at hdot
  subst hdot
  rcases mem_toList_intercalate hc with hglue | ⟨s, hs, hmem⟩
  · exact absurd hglue (by decide)
  · exact (hpath s hs).2.2 hmem

/-- **DIRECTORIES BY PATHS**: paths of segments are accepted, and the directory is named by
    all of their segments in order, an empty path adding none. -/
theorem under_paths (root : Location) (category : Category) {paths : List (List String)}
    (h : ∀ path ∈ paths, ∀ s ∈ path, IsSegment s) :
    under root category (paths.map "/".intercalate)
      = .ok (ofPath root (category.folder :: paths.flatten)) := by
  have hfind : (paths.map "/".intercalate).find? hasDot = none := by
    rw [List.find?_eq_none]
    intro joined hmem
    obtain ⟨path, hpath, rfl⟩ := List.mem_map.mp hmem
    rw [hasDot_intercalate (h path hpath)]
    exact Bool.false_ne_true
  simp only [under, hfind]
  -- What `filter` drops here are the paths without segments.
  show Except.ok (ofPath root _) = Except.ok _
  rw [ofPath, intercalate_cons_flatten category.folder fun path hp s hs => (h path hp s hs).1]
  rfl

/-- Segments are accepted one by one, with a path of segments, empty or not, behind them. -/
theorem under_front_path (root : Location) (category : Category) (front : List String)
    {path : List String} (hfront : ∀ s ∈ front, IsSegment s) (hpath : ∀ s ∈ path, IsSegment s) :
    under root category (front ++ ["/".intercalate path])
      = .ok (ofPath root (category.folder :: (front ++ path))) := by
  -- A segment in front counts as a path of its own.
  have hsegments : ∀ part ∈ front.map (fun s => [s]) ++ [path], ∀ s ∈ part, IsSegment s := by
    intro part hmem s hs
    rcases List.mem_append.mp hmem with hone | hall
    · obtain ⟨u, hu, rfl⟩ := List.mem_map.mp hone
      rw [List.mem_singleton.mp hs]
      exact hfront u hu
    · rw [List.mem_singleton.mp hall] at hs
      exact hpath s hs
  have hunder := under_paths root category hsegments
  rw [List.map_append, map_intercalate_singletons, List.flatten_append, flatten_singletons,
    List.flatten_singleton] at hunder
  exact hunder

theorem under_segments (root : Location) (category : Category) {path : List String}
    (hpath : ∀ s ∈ path, IsSegment s) :
    under root category path = .ok (ofPath root (category.folder :: path)) := by
  have hsegments : ∀ part ∈ path.map fun s => [s], ∀ s ∈ part, IsSegment s := by
    intro part hmem s hs
    obtain ⟨u, hu, rfl⟩ := List.mem_map.mp hmem
    rw [List.mem_singleton.mp hs]
    exact hpath u hu
  have hunder := under_paths root category hsegments
  rw [map_intercalate_singletons, flatten_singletons] at hunder
  exact hunder

/-- A fixed name is accepted. -/
theorem under_singleton (root : Location) (category : Category) {name : String}
    (hname : IsSegment name) : under root category [name] = .ok (category.directory root name) := by
  rw [under_segments root category (List.forall_mem_singleton.mpr hname), ofPath_category]

end Directory

end BuildLayout
