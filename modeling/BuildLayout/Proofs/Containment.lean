import BuildLayout.Proofs.Paths
import BuildLayout.Variant.Resolver

/-! # Directories stay in their category

    A directory may be asked for with any texts behind its category: empty ones, texts with
    slashes in them, at their ends or in front.  A dot is all that is refused
    (`under_eq_error_iff`).

    The texts are joined, split again at every slash and walked down piece by piece.  An empty
    piece in between changes nothing and one at the end adds a slash (`joinAll_pieces`), so
    what counts are the names between the slashes, and whether the last text ends with one
    (`location_under`).  None of the names has a slash or a dot in it, so they lead down from
    the category step by step and nowhere else (`directory_stays_in_category`). -/

namespace BuildLayout

namespace Location

/-! ## The pieces of a text -/

theorem notMem_of_mem_splitOn {c : Char} {cs : List Char} : ∀ l ∈ cs.splitOn c, c ∉ l := by
  induction cs with
  | nil =>
      intro l hl
      rw [List.mem_singleton.mp hl]
      exact List.not_mem_nil
  | cons d rest ih =>
      rw [List.splitOn_cons_eq_if_modifyHead]
      by_cases hd : (d == c) = true
      · rw [if_pos hd]
        exact List.forall_mem_cons.mpr ⟨List.not_mem_nil, ih⟩
      · rw [if_neg hd]
        obtain ⟨first, others, hsplit⟩ := List.exists_cons_of_ne_nil (List.splitOn_ne_nil c rest)
        rw [hsplit] at ih ⊢
        obtain ⟨hfirst, hothers⟩ := List.forall_mem_cons.mp ih
        refine List.forall_mem_cons.mpr ⟨?_, hothers⟩
        intro hmem
        rcases List.mem_cons.mp hmem with rfl | hmem
        · exact hd (beq_self_eq_true _)
        · exact hfirst hmem

/-- No piece has a slash in it. -/
theorem slash_notMem_of_mem_pieces {t p : String} (hp : p ∈ pieces t) : '/' ∉ p.toList := by
  obtain ⟨l, hl, rfl⟩ := List.mem_map.mp hp
  rw [String.toList_ofList]
  exact notMem_of_mem_splitOn l hl

/-- Joining the pieces gives the text back. -/
theorem intercalate_pieces (t : String) : "/".intercalate (pieces t) = t := by
  refine String.toList_injective ?_
  show ("/".intercalate ((t.toList.splitOn '/').map String.ofList)).toList = t.toList
  rw [String.toList_intercalate, List.map_map]
  have hid : String.toList ∘ String.ofList = id := by
    funext l
    exact String.toList_ofList
  rw [hid, List.map_id]
  exact List.intercalate_splitOn '/'

/-- What stands in a piece stands in the text. -/
theorem mem_of_mem_pieces {t p : String} {c : Char} (hp : p ∈ pieces t) (hc : c ∈ p.toList) :
    c ∈ t.toList := by
  rw [← intercalate_pieces t]
  exact mem_toList_intercalate_of_mem hp hc

/-- The last piece is empty exactly if the text is open: empty itself, or with a slash at its
    end. -/
theorem getLast?_pieces_eq_empty_iff (t : String) :
    (pieces t).getLast? = some "" ↔ isOpen ⟨t⟩ = true := by
  show _ ↔ (t == "" || t.toList.getLast? == some '/') = true
  rw [Bool.or_eq_true, beq_iff_eq, beq_iff_eq]
  constructor
  · intro h
    obtain ⟨front, hfront⟩ := List.getLast?_eq_some_iff.mp h
    have ht : t = "/".intercalate (front ++ [""]) := by
      rw [← hfront, intercalate_pieces]
    by_cases hnil : front = []
    · left
      rw [ht, hnil]
      exact String.intercalate_singleton
    · right
      rw [ht, String.intercalate_append_of_ne_nil hnil (List.cons_ne_nil _ _),
        String.intercalate_singleton, String.append_empty, String.toList_append]
      exact List.getLast?_concat
  · rintro (rfl | hslash)
    · rfl
    · obtain ⟨front, hfront⟩ := List.getLast?_eq_some_iff.mp hslash
      have ht : t = String.ofList front ++ "/" ++ "" := by
        refine String.toList_injective ?_
        rw [hfront, String.append_empty, String.toList_append, String.toList_ofList]
        rfl
      rw [ht, pieces_append_slash]
      exact List.getLast?_concat

/-! ## Walking down pieces -/

/-- Behind an empty component no further slash is needed. -/
theorem gap_join_empty (base : Location) : (base.join "").gap = "" := by
  rw [join_eq_append base List.not_mem_nil, String.append_empty]
  by_cases hopen : base.isOpen = true
  · have hgap : base.gap = "" := if_pos hopen
    rw [hgap, String.append_empty]
    exact hgap
  · have hgap : base.gap = "/" := if_neg hopen
    have hclosed : isOpen ⟨base.text ++ "/"⟩ = true := by
      show (base.text ++ "/" == "" || (base.text ++ "/").toList.getLast? == some '/') = true
      rw [Bool.or_eq_true, beq_iff_eq, beq_iff_eq, String.toList_append]
      exact Or.inr List.getLast?_concat
    rw [hgap]
    exact if_pos hclosed

/-- An empty component in front of another one changes nothing. -/
theorem join_empty_join (base : Location) {s : String} (hs : '/' ∉ s.toList) :
    (base.join "").join s = base.join s := by
  rw [join_eq_append _ hs, gap_join_empty, join_eq_append base hs,
    join_eq_append base List.not_mem_nil, String.append_empty, String.append_empty]

/-- **EMPTY PIECES**: those in between change nothing, and one at the end is joined last. -/
theorem joinAll_pieces (base : Location) {path : List String}
    (hpath : ∀ s ∈ path, '/' ∉ s.toList) :
    base.joinAll path
      = if path.getLast? = some "" then (base.joinAll (path.filter (· != ""))).join ""
        else base.joinAll (path.filter (· != "")) := by
  induction path generalizing base with
  | nil => rfl
  | cons s rest ih =>
      obtain ⟨hs, hrest⟩ := List.forall_mem_cons.mp hpath
      cases rest with
      | nil =>
          by_cases hempty : s = ""
          · subst hempty
            rfl
          · have hkeep : [s].filter (· != "") = [s] := by
              rw [List.filter_cons_of_pos (p := (· != "")) (bne_iff_ne.mpr hempty), List.filter_nil]
            have hlast : [s].getLast? ≠ some "" := fun h => hempty (Option.some.inj h)
            rw [hkeep, if_neg hlast]
      | cons q rest =>
          have hlast : (s :: q :: rest).getLast? = (q :: rest).getLast? :=
            List.getLast?_cons_cons
          rw [hlast]
          by_cases hempty : s = ""
          · subst hempty
            have hstep : base.joinAll ("" :: q :: rest) = base.joinAll (q :: rest) := by
              show ((base.join "").join q).joinAll rest = (base.join q).joinAll rest
              rw [join_empty_join base (hrest q (List.mem_cons_self ..))]
            rw [hstep]
            exact ih base hrest
          · rw [List.filter_cons_of_pos (p := (· != "")) (bne_iff_ne.mpr hempty)]
            exact ih (base.join s) hrest

/-- Behind a path of segments the next component needs a slash. -/
theorem gap_joinAll (base : Location) {path : List String} (hne : path ≠ [])
    (hpath : ∀ s ∈ path, IsSegment s) : (base.joinAll path).gap = "/" := by
  rcases List.eq_nil_or_concat path with hnil | ⟨front, s, hconcat⟩
  · exact absurd hnil hne
  · rw [List.concat_eq_append] at hconcat
    subst hconcat
    have hs : IsSegment s := hpath s (List.mem_append_right _ (List.mem_cons_self ..))
    rw [joinAll_append]
    show ((base.joinAll front).join s).gap = "/"
    rw [join_eq_append _ hs.2.1]
    exact gap_append_segment _ hs

/-- A step down leads to an absolute path only from one. -/
theorem isAbsolute_join (base : Location) {s : String} (hs : '/' ∉ s.toList) :
    (base.join s).isAbsolute = base.isAbsolute := by
  rw [join_eq_append base hs]
  show ((base.text ++ base.gap ++ s).toList.head? == some '/') = (base.text.toList.head? == _)
  rw [String.toList_append, String.toList_append, List.append_assoc]
  cases hbase : base.text.toList with
  | cons c rest => rfl
  | nil =>
      have hgap : base.gap = "" := by
        have hempty : base.text = "" := String.toList_eq_nil_iff.mp hbase
        show (if (base.text == "" || _) then "" else "/") = ""
        rw [hempty]
        rfl
      rw [hgap]
      exact isAbsoluteText_eq_false hs

theorem isAbsolute_joinAll (base : Location) {path : List String}
    (hpath : ∀ s ∈ path, '/' ∉ s.toList) : (base.joinAll path).isAbsolute = base.isAbsolute := by
  induction path generalizing base with
  | nil => rfl
  | cons s rest ih =>
      obtain ⟨hs, hrest⟩ := List.forall_mem_cons.mp hpath
      exact (ih (base.join s) hrest).trans (isAbsolute_join base hs)

/-! ## What texts behind a category come to -/

/-- The names between the slashes of the texts, in order. -/
def names (texts : List String) : List String := (texts.flatMap pieces).filter (· != "")

/-- Whether the last text that is not empty ends with a slash. -/
def endWithSlash (texts : List String) : Bool :=
  (texts.filter (· != "")).getLast?.any fun t => t.toList.getLast? == some '/'

/-- Empty texts have no names. -/
theorem names_filter (texts : List String) : names (texts.filter (· != "")) = names texts := by
  induction texts with
  | nil => rfl
  | cons t rest ih =>
      have hcons : ∀ rest, names (t :: rest) = (pieces t).filter (· != "") ++ names rest := by
        intro rest
        show ((t :: rest).flatMap pieces).filter (· != "") = _
        rw [List.flatMap_cons, List.filter_append]
        rfl
      by_cases hempty : t = ""
      · subst hempty
        rw [hcons]
        exact ih
      · rw [List.filter_cons_of_pos (p := (· != "")) (bne_iff_ne.mpr hempty), hcons, hcons, ih]

/-- Names of texts without dots are segments. -/
theorem isSegment_of_mem_names {texts : List String} (h : ∀ t ∈ texts, '.' ∉ t.toList) :
    ∀ s ∈ names texts, IsSegment s := by
  intro s hs
  obtain ⟨hpiece, hne⟩ := List.mem_filter.mp hs
  obtain ⟨t, ht, hst⟩ := List.mem_flatMap.mp hpiece
  refine ⟨bne_iff_ne.mp hne, slash_notMem_of_mem_pieces hst, ?_⟩
  intro hdot
  exact h t ht (mem_of_mem_pieces hst hdot)

/-- Behind a segment, the pieces of texts end with an empty one exactly if the last text that
    is not empty ends with a slash. -/
theorem getLast?_pieces_filter {first : String} (hfirst : first ≠ "") (texts : List String) :
    (first :: (texts.filter (· != "")).flatMap pieces).getLast? = some ""
      ↔ endWithSlash texts = true := by
  have hkept : ∀ t ∈ texts.filter (· != ""), t ≠ "" :=
    fun t ht => bne_iff_ne.mp (List.mem_filter.mp ht).2
  simp only [endWithSlash]
  generalize texts.filter (· != "") = kept at hkept
  rcases List.eq_nil_or_concat kept with rfl | ⟨front, t, hconcat⟩
  · exact ⟨fun h => absurd (Option.some.inj h) hfirst, fun h => (nomatch h)⟩
  · rw [List.concat_eq_append] at hconcat
    subst hconcat
    have ht : t ≠ "" := hkept t (List.mem_append_right _ (List.mem_cons_self ..))
    have hne : pieces t ≠ [] := fun h => List.splitOn_ne_nil '/' t.toList (List.map_eq_nil_iff.mp h)
    have hpieces : (pieces t).getLast? = some ((pieces t).getLast hne) :=
      List.getLast?_eq_some_getLast hne
    have hopen := getLast?_pieces_eq_empty_iff t
    rw [hpieces] at hopen
    rw [List.getLast?_concat, List.flatMap_append, List.flatMap_singleton, ← List.cons_append,
      List.getLast?_append, hpieces, Option.some_or, hopen]
    show (t == "" || t.toList.getLast? == some '/') = true ↔ _
    rw [beq_eq_false_iff_ne.mpr ht]
    rfl

/-- A location is below another one if segments lead down to it; it may end with a slash. -/
def IsBelow (l base : Location) : Prop :=
  ∃ path : List String, (∀ s ∈ path, IsSegment s)
    ∧ (l = base.joinAll path ∨ l = (base.joinAll path).join "")

end Location

/-! ## Directories -/

namespace Directory

variable {root : Location} {category : Category} {texts : List String}

theorem hasDot_eq_true_iff {t : String} : hasDot t = true ↔ '.' ∈ t.toList := by
  show t.toList.any (· == '.') = true ↔ _
  rw [List.any_eq_true]
  constructor
  · rintro ⟨c, hc, hdot⟩
    rw [← beq_iff_eq.mp hdot]
    exact hc
  · intro h
    exact ⟨'.', h, beq_self_eq_true _⟩

theorem under_of_dot {t : String} (h : texts.find? hasDot = some t) :
    under root category texts
      = .error (.dottedSegment t (category.folder ++ "/" ++ "/".intercalate texts)) := by
  simp only [under, h]

theorem under_of_plain (h : texts.find? hasDot = none) :
    under root category texts
      = .ok ⟨root, "/".intercalate (category.folder :: texts.filter (· != ""))⟩ := by
  simp only [under, h]

/-- **DOTS ARE REFUSED**, and nothing else: the first text with one is named, and so is the
    whole path that was asked for. -/
theorem under_eq_error_iff {e : VariantError} :
    under root category texts = .error e
      ↔ ∃ front t back, texts = front ++ t :: back ∧ (∀ u ∈ front, '.' ∉ u.toList)
          ∧ '.' ∈ t.toList
          ∧ e = .dottedSegment t (category.folder ++ "/" ++ "/".intercalate texts) := by
  cases hfind : texts.find? hasDot with
  | none =>
      rw [under_of_plain hfind]
      refine ⟨fun h => (nomatch h), ?_⟩
      rintro ⟨front, t, back, rfl, -, hdot, -⟩
      have hnone := List.find?_eq_none.mp hfind t
        (List.mem_append_right _ (List.mem_cons_self ..))
      exact absurd (hasDot_eq_true_iff.mpr hdot) hnone
  | some t =>
      rw [under_of_dot hfind]
      constructor
      · intro h
        obtain ⟨hdot, front, back, hsplit, hfront⟩ := List.find?_eq_some_iff_append.mp hfind
        refine ⟨front, t, back, hsplit, ?_, hasDot_eq_true_iff.mp hdot, (Except.error.inj h).symm⟩
        intro u hu hmem
        have hother := hfront u hu
        rw [hasDot_eq_true_iff.mpr hmem] at hother
        exact nomatch hother
      · rintro ⟨front, u, back, hsplit, hfront, hdot, rfl⟩
        have hfirst : texts.find? hasDot = some u := by
          refine List.find?_eq_some_iff_append.mpr
            ⟨hasDot_eq_true_iff.mpr hdot, front, back, hsplit, ?_⟩
          intro v hv
          rw [Bool.not_eq_true']
          exact Bool.eq_false_iff.mpr fun hv' => hfront v hv (hasDot_eq_true_iff.mp hv')
        rw [Option.some.inj (hfind.symm.trans hfirst)]

/-- What is accepted has no dots. -/
theorem notMem_of_under_eq_ok {d : Directory} (h : under root category texts = .ok d) :
    (∀ t ∈ texts, '.' ∉ t.toList)
      ∧ d = ⟨root, "/".intercalate (category.folder :: texts.filter (· != ""))⟩ := by
  cases hfind : texts.find? hasDot with
  | some t =>
      rw [under_of_dot hfind] at h
      exact nomatch h
  | none =>
      rw [under_of_plain hfind] at h
      refine ⟨?_, (Except.ok.inj h).symm⟩
      intro t ht hdot
      exact List.find?_eq_none.mp hfind t ht (hasDot_eq_true_iff.mpr hdot)

/-- **NAMES ALONE COUNT**: a directory lies where the category and the names of the texts lead
    from the root, with a slash at the end if the last text has one. -/
theorem location_under {d : Directory} (h : under root category texts = .ok d) :
    d.location
      = if Location.endWithSlash texts
        then (root.joinAll (category.folder :: Location.names texts)).join ""
        else root.joinAll (category.folder :: Location.names texts) := by
  obtain ⟨hdots, rfl⟩ := notMem_of_under_eq_ok h
  have hfolder : category.folder ≠ "" := category.isSegment_folder.1
  have hslash : '/' ∉ category.folder.toList := category.isSegment_folder.2.1
  have hrelative : "/".intercalate (category.folder :: texts.filter (· != "")) ≠ "" := by
    refine fun h0 => List.cons_ne_nil _ _ ((intercalate_eq_empty_iff ?_).mp h0)
    refine List.forall_mem_cons.mpr ⟨hfolder, ?_⟩
    exact fun t ht => bne_iff_ne.mp (List.mem_filter.mp ht).2
  have hpieces : Location.pieces ("/".intercalate (category.folder :: texts.filter (· != "")))
      = category.folder :: (texts.filter (· != "")).flatMap Location.pieces := by
    rw [Location.pieces_intercalate (List.cons_ne_nil _ _), List.flatMap_cons,
      Location.pieces_of_notMem hslash]
    rfl
  have hnoslash : ∀ s ∈ category.folder :: (texts.filter (· != "")).flatMap Location.pieces,
      '/' ∉ s.toList := by
    refine List.forall_mem_cons.mpr ⟨hslash, ?_⟩
    intro s hs
    obtain ⟨t, -, hst⟩ := List.mem_flatMap.mp hs
    exact Location.slash_notMem_of_mem_pieces hst
  show (if _ then root else root.joinAll _) = _
  rw [if_neg hrelative, hpieces, Location.joinAll_pieces root hnoslash,
    List.filter_cons_of_pos (p := (· != "")) (bne_iff_ne.mpr hfolder)]
  have hnames : ((texts.filter (· != "")).flatMap Location.pieces).filter (· != "")
      = Location.names texts := Location.names_filter texts
  rw [hnames]
  simp only [Location.getLast?_pieces_filter hfolder texts]

/-- The path to the category and on by the names of accepted texts is made of segments. -/
theorem isSegment_path_under {d : Directory} (h : under root category texts = .ok d) :
    ∀ s ∈ category.folder :: Location.names texts, IsSegment s :=
  List.forall_mem_cons.mpr
    ⟨category.isSegment_folder, Location.isSegment_of_mem_names (notMem_of_under_eq_ok h).1⟩

/-- The path of a directory, written out. -/
theorem text_location_under {d : Directory} (h : under root category texts = .ok d) :
    d.location.text
      = root.text ++ root.gap ++ "/".intercalate (category.folder :: Location.names texts)
        ++ if Location.endWithSlash texts then "/" else "" := by
  have hne : category.folder :: Location.names texts ≠ [] := List.cons_ne_nil _ _
  have hpath := isSegment_path_under h
  rw [location_under h, ← Location.joinAll_text root hne hpath]
  cases Location.endWithSlash texts with
  | false => exact String.append_empty.symm
  | true =>
      show (Location.join _ "").text = _ ++ "/"
      rw [Location.join_eq_append _ List.not_mem_nil, Location.gap_joinAll root hne hpath,
        String.append_empty]

/-- A directory starts where its root does. -/
theorem isAbsolute_location_under {d : Directory} (h : under root category texts = .ok d) :
    d.location.isAbsolute = root.isAbsolute := by
  have hroute : (root.joinAll (category.folder :: Location.names texts)).isAbsolute
      = root.isAbsolute :=
    Location.isAbsolute_joinAll root fun s hs => (isSegment_path_under h s hs).2.1
  have hclosed : '/' ∉ "".toList := List.not_mem_nil
  rw [location_under h]
  cases Location.endWithSlash texts with
  | false => exact hroute
  | true => exact (Location.isAbsolute_join _ hclosed).trans hroute

/-- Segments lead down to a directory from its category. -/
theorem isBelow_location_under {d : Directory} (h : under root category texts = .ok d) :
    d.location.IsBelow (root.join category.folder) := by
  refine ⟨Location.names texts, Location.isSegment_of_mem_names (notMem_of_under_eq_ok h).1, ?_⟩
  rw [location_under h]
  cases Location.endWithSlash texts with
  | false => exact Or.inl rfl
  | true => exact Or.inr rfl

end Directory

namespace Resolver

/-- **DIRECTORIES STAY IN THEIR CATEGORY**: a directory is refused exactly if one of the texts
    asked for has a dot in it, and the first such text is named.  Any other is reached from the
    build root by the category and the names between the slashes of the texts, so it is
    absolute only if the root is, and it is below the category. -/
theorem directory_stays_in_category (r : Resolver) (category : Category) (texts : List String) :
    ((∃ e, r.directory category texts = .error e) ↔ ∃ t ∈ texts, '.' ∈ t.toList)
      ∧ (∀ e, r.directory category texts = .error e
          ↔ ∃ front t back, texts = front ++ t :: back ∧ (∀ u ∈ front, '.' ∉ u.toList)
              ∧ '.' ∈ t.toList
              ∧ e = .dottedSegment t (category.folder ++ "/" ++ "/".intercalate texts))
      ∧ ∀ d, r.directory category texts = .ok d →
          (d.location.text
              = r.root.text ++ r.root.gap
                ++ "/".intercalate (category.folder :: Location.names texts)
                ++ if Location.endWithSlash texts then "/" else "")
            ∧ d.location.isAbsolute = r.root.isAbsolute
            ∧ d.location.IsBelow (r.root.join category.folder) := by
  refine ⟨⟨?_, ?_⟩, fun e => Directory.under_eq_error_iff, ?_⟩
  · rintro ⟨e, he⟩
    obtain ⟨front, t, back, rfl, -, hdot, -⟩ := Directory.under_eq_error_iff.mp he
    exact ⟨t, List.mem_append_right _ (List.mem_cons_self ..), hdot⟩
  · rintro ⟨t, ht, hdot⟩
    cases hunder : r.directory category texts with
    | error e => exact ⟨e, rfl⟩
    | ok d => exact absurd hdot ((Directory.notMem_of_under_eq_ok hunder).1 t ht)
  · intro d hd
    exact ⟨Directory.text_location_under hd, Directory.isAbsolute_location_under hd,
      Directory.isBelow_location_under hd⟩

/-- Slashes in front, in between and at the end, and an empty text. -/
example :
    (Resolver.directory { identity := {}, root := ⟨"/p"⟩ } .reports
      ["/etc", "", "a//b/"]).map Directory.location = .ok ⟨"/p/reports/etc/a/b/"⟩ := by
  rfl

end Resolver

end BuildLayout
