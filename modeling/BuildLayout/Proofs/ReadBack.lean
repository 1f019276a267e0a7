import BuildLayout.Proofs.Names
import BuildLayout.Variant.Cells

/-! # Names that can be read back

    A directory name is joined from segments by slashes, a base name from tokens by dashes.
    Both glues are separators, and what is joined are words, so neither loses anything: the
    segments are the pieces of the directory name (`segments_read_off_dirName`), the tokens
    those of the base name (`tokens_read_off_baseName`).

    Where there is nothing to join the two differ.  The directory name is empty then, which no
    other one is; the base name falls back to `main`, and that is also the base name of an
    identity with `main` for its only token. -/

namespace BuildLayout

open Text

/-! ## Directory names -/

namespace Setup

variable {u v : Setup}

/-- The directory segments of a new resolver are words. -/
theorem isWord_segment (h : u.identity.WellFormed) : ∀ s ∈ u.resolver.segments, IsWord s :=
  h.isWord_segment u.naming

/-- They are the pieces of the directory name, and an empty one stands for none. -/
theorem segments_eq_piecesAt (h : u.identity.WellFormed) :
    u.resolver.segments
      = if u.resolver.dirName = "" then [] else piecesAt '/' u.resolver.dirName := by
  refine eq_piecesAt_intercalate (c := '/') ?_
  intro s hs
  have hword := isWord_segment h s hs
  exact ⟨hword.1, hword.notMem (by decide)⟩

/-- **DIRECTORY NAMES LOSE NOTHING**: under either naming, the segments of a well-formed
    identity are there and hold no separator; they are the pieces of the directory name, an
    empty one standing for no segment, so two directory names are the same exactly if the
    segments are. -/
theorem segments_read_off_dirName (hu : u.identity.WellFormed) (hv : v.identity.WellFormed) :
    (∀ s ∈ u.resolver.segments, s ≠ "" ∧ ∀ c ∈ ['/', '\\', '.', '-'], c ∉ s.toList)
      ∧ u.resolver.segments
          = (if u.resolver.dirName = "" then [] else piecesAt '/' u.resolver.dirName)
      ∧ (u.resolver.dirName = v.resolver.dirName
          ↔ u.resolver.segments = v.resolver.segments) := by
  have hseparators : ∀ c ∈ ['/', '\\', '.', '-'], isSeparator c = true :=
    List.all_eq_true.mp (by decide)
  refine ⟨?_, segments_eq_piecesAt hu, ?_⟩
  · intro s hs
    have hword := isWord_segment hu s hs
    exact ⟨hword.1, fun c hc => hword.notMem (hseparators c hc)⟩
  · constructor
    · intro hname
      rw [segments_eq_piecesAt hu, hname, ← segments_eq_piecesAt hv]
    · intro hsegments
      show "/".intercalate u.resolver.segments = "/".intercalate v.resolver.segments
      rw [hsegments]

/-- A benchmark of a build type with two flavors, one of which is longer in upper case. -/
def benchSetup : Setup where
  identity :=
    { buildType := some "debug"
      flavors := [⟨"tier", "free"⟩, ⟨"env", "ßtage"⟩]
      component := .nested "bench" "Bench" }
  root := ⟨"/p/build"⟩

/-- A build type of its own, which is called like the flavors above run together. -/
def plainSetup : Setup where
  identity := { buildType := some "freeSStage" }
  root := ⟨"/p/build"⟩

theorem segments_read_off_dirName_benchSetup :
    benchSetup.identity.WellFormed ∧ plainSetup.identity.WellFormed
      ∧ benchSetup.resolver.dirName = "bench/freeSStage/debug"
      ∧ benchSetup.resolver.segments = piecesAt '/' "bench/freeSStage/debug"
      ∧ benchSetup.resolver.dirName ≠ plainSetup.resolver.dirName := by
  have hbench : benchSetup.identity.WellFormed := by decide
  have hplain : plainSetup.identity.WellFormed := by decide
  have hname : benchSetup.resolver.dirName = "bench/freeSStage/debug" := by decide
  obtain ⟨-, hpieces, hsame⟩ := segments_read_off_dirName hbench hplain
  refine ⟨hbench, hplain, hname, ?_, ?_⟩
  · rw [hpieces, hname]
    exact if_neg (by decide)
  · rw [ne_eq, hsame]
    decide

end Setup

/-! ## Base names -/

namespace Identity

variable {i j : Identity}

/-- The pieces of a base name are the tokens that it shows. -/
theorem WellFormed.piecesAt_baseName (h : i.WellFormed) :
    piecesAt '-' i.baseName = i.shownTokens := by
  have hne : i.shownTokens ≠ [] := by
    by_cases hnil : i.tokens = []
    · rw [shownTokens_of_nil hnil]
      exact List.cons_ne_nil _ _
    · rw [shownTokens_of_ne_nil hnil]
      exact hnil
  rw [baseName_eq_intercalate]
  refine piecesAt_intercalate (c := '-') hne ?_
  intro t ht
  exact (h.isWord_shownToken t ht).notMem (by decide)

/-- So well-formed identities share a base name exactly when the same is shown. -/
theorem WellFormed.baseName_eq_iff (hi : i.WellFormed) (hj : j.WellFormed) :
    i.baseName = j.baseName ↔ i.shownTokens = j.shownTokens := by
  constructor
  · intro h
    rw [← hi.piecesAt_baseName, h, hj.piecesAt_baseName]
  · intro h
    rw [baseName_eq_intercalate, h, ← baseName_eq_intercalate]

/-- The fallback name is shown for no tokens and for itself. -/
theorem shownTokens_eq_iff :
    i.shownTokens = j.shownTokens ↔ i.tokens = j.tokens
      ∨ (i.tokens = [] ∧ j.tokens = [mainName]) ∨ (i.tokens = [mainName] ∧ j.tokens = []) := by
  by_cases hi : i.tokens = []
  · by_cases hj : j.tokens = []
    · rw [shownTokens_of_nil hi, shownTokens_of_nil hj]
      exact iff_of_true rfl (Or.inl (hi.trans hj.symm))
    · rw [shownTokens_of_nil hi, shownTokens_of_ne_nil hj, hi]
      constructor
      · intro h
        exact Or.inr (Or.inl ⟨rfl, h.symm⟩)
      · rintro (h | ⟨-, h⟩ | ⟨-, h⟩)
        · exact absurd h.symm hj
        · exact h.symm
        · exact absurd h hj
  · by_cases hj : j.tokens = []
    · rw [shownTokens_of_ne_nil hi, shownTokens_of_nil hj, hj]
      constructor
      · intro h
        exact Or.inr (Or.inr ⟨h, rfl⟩)
      · rintro (h | ⟨h, -⟩ | ⟨h, -⟩)
        · exact absurd h hi
        · exact absurd h hi
        · exact h
    · rw [shownTokens_of_ne_nil hi, shownTokens_of_ne_nil hj]
      constructor
      · exact Or.inl
      · rintro (h | ⟨h, -⟩ | ⟨-, h⟩)
        · exact h
        · exact absurd h hi
        · exact absurd h hj

/-- **BASE NAMES LOSE NOTHING** but the difference between no tokens and the fallback name: the
    pieces of the base name of a well-formed identity are its tokens, or the fallback name where
    there are none, so two of them share a base name exactly if they have the same tokens, or
    one has none and the other has only `main`.  In any identity, the base name of a split
    depends on the split. -/
theorem tokens_read_off_baseName (hi : i.WellFormed) (hj : j.WellFormed) :
    piecesAt '-' i.baseName = (if i.tokens = [] then ["main"] else i.tokens)
      ∧ (i.baseName = j.baseName ↔ i.tokens = j.tokens
          ∨ (i.tokens = [] ∧ j.tokens = ["main"]) ∨ (i.tokens = ["main"] ∧ j.tokens = []))
      ∧ ∀ (k : Identity) (s t : String),
          k.baseNameWithSplit s = k.baseNameWithSplit t ↔ s = t := by
  refine ⟨hi.piecesAt_baseName, (hi.baseName_eq_iff hj).trans shownTokens_eq_iff, ?_⟩
  intro k s t
  constructor
  · exact baseNameWithSplit_injective
  · intro h
    rw [h]

/-- An identity with the fallback name for its only flavor. -/
def mainFlavor : Identity where
  flavors := [⟨"tier", "main"⟩]

theorem tokens_read_off_baseName_mainFlavor :
    bare.WellFormed ∧ mainFlavor.WellFormed ∧ bare.tokens ≠ mainFlavor.tokens
      ∧ bare.baseName = mainFlavor.baseName ∧ piecesAt '-' bare.baseName = mainFlavor.tokens := by
  have hbare : bare.WellFormed := by decide
  have hflavor : mainFlavor.WellFormed := by decide
  obtain ⟨hpieces, hsame, -⟩ := tokens_read_off_baseName hbare hflavor
  refine ⟨hbare, hflavor, by decide, ?_, hpieces⟩
  exact hsame.mpr (Or.inr (Or.inl ⟨rfl, rfl⟩))

end Identity

end BuildLayout
