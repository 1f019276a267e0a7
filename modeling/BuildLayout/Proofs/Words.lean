import BuildLayout.Variant.Naming

/-! # Words

    A word is a text that can stand as one path segment and as one piece of a joined name: it
    is not empty and holds no separator.  Camel case keeps words words.  The one step with
    something to check is upper-casing, where a character may become several: a separator is
    its own upper case, and no other character has a separator in its upper case.

    Read from the left, camel case takes the first word that is there as it stands and adds
    every later one capitalized; `camelCase_cons` is that closed form.  Since only the start of
    a text is capitalized, words that are put together first and then capitalized give the same
    as words that are capitalized one by one (`capitalized_camelCase`), so it does not matter
    how the words are grouped (`camelCase_regroups`). -/

namespace BuildLayout

open Text

/-- A text that is not empty and has no separator in it. -/
def IsWord (s : String) : Prop := s ≠ "" ∧ hasSeparator s = false

instance (s : String) : Decidable (IsWord s) :=
  inferInstanceAs (Decidable (s ≠ "" ∧ hasSeparator s = false))

theorem hasSeparator_append (s t : String) :
    hasSeparator (s ++ t) = (hasSeparator s || hasSeparator t) := by
  simp only [hasSeparator, String.toList_append, List.any_append]

theorem hasSeparator_eq_false_iff {s : String} :
    hasSeparator s = false ↔ ∀ c ∈ s.toList, isSeparator c = false := by
  simp only [hasSeparator, List.any_eq_false, Bool.not_eq_true]

/-- No separator stands in a word. -/
theorem IsWord.notMem {s : String} (h : IsWord s) {c : Char} (hc : isSeparator c = true) :
    c ∉ s.toList := by
  intro hmem
  exact Bool.false_ne_true ((hasSeparator_eq_false_iff.mp h.2 c hmem).symm.trans hc)

/-- Words put one after the other are a word. -/
theorem IsWord.append {s t : String} (hs : IsWord s) (ht : IsWord t) : IsWord (s ++ t) := by
  refine ⟨?_, ?_⟩
  · intro h
    exact hs.1 (String.append_eq_empty_iff.mp h).1
  · rw [hasSeparator_append, hs.2, ht.2]
    rfl

/-! ## Upper case makes no separator -/

/-- The upper case of a character is an entry of the table of expansions, a shift by the
    distance of a run, or the character itself, which then no run covers. -/
theorem upper_cases (c : Char) :
    (∃ e ∈ caseExpansions, upper c = (e.head :: e.tail).map Char.ofNat)
      ∨ (∃ r ∈ caseRuns, r.covers c.toNat = true ∧ upper c = [Char.ofNat (r.map c.toNat)])
      ∨ (∀ r ∈ caseRuns, r.covers c.toNat = false) ∧ upper c = [c] := by
  simp only [upper]
  cases hexpansion : caseExpansions.find? (·.source == c.toNat) with
  | some e => exact Or.inl ⟨e, List.mem_of_find?_eq_some hexpansion, rfl⟩
  | none =>
      cases hrun : caseRuns.find? (·.covers c.toNat) with
      | some r =>
          have hcovers := List.find?_some hrun
          exact Or.inr (Or.inl ⟨r, List.mem_of_find?_eq_some hrun, hcovers, rfl⟩)
      | none =>
          refine Or.inr (Or.inr ⟨fun r hr => ?_, rfl⟩)
          exact Bool.eq_false_iff.mpr (List.find?_eq_none.mp hrun r hr)

/-- What a run covers is mapped into the image of the run. -/
theorem Text.CaseRun.map_of_covers {r : CaseRun} {n : Nat} (h : r.covers n = true) :
    r.target ≤ r.map n ∧ r.map n ≤ r.target + (r.last - r.first) := by
  simp only [CaseRun.covers, Bool.and_eq_true, decide_eq_true_eq] at h
  show r.target ≤ r.target + (n - r.first) ∧ r.target + (n - r.first) ≤ _
  omega

/-- A character is given by one code point only, the null character apart. -/
theorem eq_toNat_of_ofNat_eq {n : Nat} {c : Char} (hc : c ≠ Char.ofNat 0)
    (h : Char.ofNat n = c) : n = c.toNat := by
  by_cases hn : n.isValidChar
  · have hval : Char.ofNat n = Char.ofNatAux n hn := dif_pos hn
    rw [← h, hval]
    rfl
  · have hval : Char.ofNat n = Char.ofNat 0 := dif_neg hn
    exact absurd (h.symm.trans hval) hc

/-- The code points of the separators. -/
theorem separator_codes {n : Nat} (h : isSeparator (Char.ofNat n) = true) :
    n = 0x2D ∨ n = 0x2E ∨ n = 0x2F ∨ n = 0x5C := by
  simp only [isSeparator, Bool.or_eq_true, beq_iff_eq] at h
  rcases h with ((h | h) | h) | h
  · exact Or.inr (Or.inr (Or.inl (eq_toNat_of_ofNat_eq (by decide) h)))
  · exact Or.inr (Or.inr (Or.inr (eq_toNat_of_ofNat_eq (by decide) h)))
  · exact Or.inr (Or.inl (eq_toNat_of_ofNat_eq (by decide) h))
  · exact Or.inl (eq_toNat_of_ofNat_eq (by decide) h)

/-- No character of an expansion is a separator. -/
theorem caseExpansions_codes :
    ∀ e ∈ caseExpansions, ∀ n ∈ e.head :: e.tail, 0x2F < n ∧ n ≠ 0x5C := by
  decide +kernel

/-- No run of capitals meets a separator: it stays above the slash, on one side of the
    backslash. -/
theorem caseRuns_codes :
    ∀ r ∈ caseRuns, 0x2F < r.target ∧
      (r.target + (r.last - r.first) < 0x5C ∨ 0x5C < r.target) := by
  decide +kernel

theorem isSeparator_ofNat_eq_false {n : Nat} (h : 0x2F < n ∧ n ≠ 0x5C) :
    isSeparator (Char.ofNat n) = false := by
  cases hs : isSeparator (Char.ofNat n) with
  | false => rfl
  | true =>
      have := separator_codes hs
      omega

/-- Only a separator has a separator in its upper case. -/
theorem isSeparator_upper {c d : Char} (hc : isSeparator c = false) (hd : d ∈ upper c) :
    isSeparator d = false := by
  rcases upper_cases c with ⟨e, he, hupper⟩ | ⟨r, hr, hcovers, hupper⟩ | ⟨-, hupper⟩
  · rw [hupper] at hd
    obtain ⟨n, hn, rfl⟩ := List.mem_map.mp hd
    exact isSeparator_ofNat_eq_false (caseExpansions_codes e he n hn)
  · rw [hupper] at hd
    rw [List.mem_singleton.mp hd]
    have hcodes := caseRuns_codes r hr
    have himage := CaseRun.map_of_covers hcovers
    exact isSeparator_ofNat_eq_false (by omega)
  · rw [hupper] at hd
    rw [List.mem_singleton.mp hd]
    exact hc

/-! ## Capitalized words -/

theorem upper_ne_nil (c : Char) : upper c ≠ [] := by
  rcases upper_cases c with ⟨e, -, hupper⟩ | ⟨r, -, -, hupper⟩ | ⟨-, hupper⟩ <;>
    rw [hupper] <;> exact List.cons_ne_nil _ _

/-- A word that starts with `c`, capitalized. -/
theorem toList_capitalized {word : String} {c : Char} {rest : List Char}
    (h : word.toList = c :: rest) : (capitalized word).toList = upper c ++ rest := by
  simp only [Text.capitalized, h]
  exact String.toList_ofList

@[simp] theorem capitalized_eq_empty_iff {word : String} : capitalized word = "" ↔ word = "" := by
  constructor
  · intro h
    cases hw : word.toList with
    | nil => exact String.toList_eq_nil_iff.mp hw
    | cons c rest =>
        have happ := toList_capitalized hw
        rw [h] at happ
        exact absurd (List.append_eq_nil_iff.mp happ.symm).1 (upper_ne_nil c)
  · rintro rfl
    rfl

/-- Capitalizing keeps words words. -/
theorem IsWord.capitalized {word : String} (h : IsWord word) : IsWord (capitalized word) := by
  refine ⟨fun h0 => h.1 (capitalized_eq_empty_iff.mp h0), ?_⟩
  cases hw : word.toList with
  | nil => exact absurd (String.toList_eq_nil_iff.mp hw) h.1
  | cons c rest =>
      have hall := hasSeparator_eq_false_iff.mp h.2
      rw [hw] at hall
      refine hasSeparator_eq_false_iff.mpr ?_
      rw [toList_capitalized hw]
      intro d hd
      rcases List.mem_append.mp hd with hup | hrest
      · exact isSeparator_upper (hall c (List.mem_cons_self ..)) hup
      · exact hall d (List.mem_cons_of_mem _ hrest)

/-! ## Camel case -/

/-- Words are taken one after the other. -/
theorem camelCaseFrom_append (acc : String) (xs ys : List String) :
    camelCaseFrom acc (xs ++ ys) = camelCaseFrom (camelCaseFrom acc xs) ys := by
  induction xs generalizing acc with
  | nil => rfl
  | cons x xs ih => exact ih _

/-- Camel case can be taken up where it stopped. -/
theorem camelCaseFrom_camelCase (xs ys : List String) :
    camelCaseFrom (camelCase xs) ys = camelCase (xs ++ ys) :=
  (camelCaseFrom_append "" xs ys).symm

/-- Behind a text that is there, every word is capitalized. -/
theorem camelCaseFrom_of_ne_empty {acc : String} (h : acc ≠ "") (words : List String) :
    camelCaseFrom acc words = acc ++ String.join (words.map Text.capitalized) := by
  induction words generalizing acc with
  | nil => rw [List.map_nil, String.join_nil, String.append_empty]; rfl
  | cons word rest ih =>
      have hne : acc ++ Text.capitalized word ≠ "" :=
        fun h0 => h (String.append_eq_empty_iff.mp h0).1
      show camelCaseFrom (if acc = "" then word else acc ++ Text.capitalized word) rest = _
      rw [if_neg h, ih hne, List.map_cons, String.join_cons, String.append_assoc]

/-- One more word, where there is one, stands capitalized behind a text that is there. -/
theorem camelCaseFrom_toList_of_ne_empty {acc : String} (h : acc ≠ "") (word : Option String) :
    camelCaseFrom acc word.toList = acc ++ (word.map Text.capitalized).getD "" := by
  rw [camelCaseFrom_of_ne_empty h]
  cases word with
  | none => rfl
  | some w =>
      show acc ++ String.join [Text.capitalized w] = acc ++ Text.capitalized w
      rw [String.join_cons, String.join_nil, String.append_empty]

/-- **CLOSED FORM**: the first word as it stands, the others capitalized. -/
theorem camelCase_cons {word : String} (h : word ≠ "") (rest : List String) :
    camelCase (word :: rest) = word ++ String.join (rest.map Text.capitalized) :=
  camelCaseFrom_of_ne_empty h rest

/-- Camel case is empty only if there is nothing in it. -/
theorem camelCaseFrom_eq_empty_iff {acc : String} {words : List String} :
    camelCaseFrom acc words = "" ↔ acc = "" ∧ ∀ w ∈ words, w = "" := by
  induction words generalizing acc with
  | nil => exact ⟨fun h => ⟨h, fun w hw => nomatch hw⟩, fun h => h.1⟩
  | cons word rest ih =>
      show camelCaseFrom (if acc = "" then word else acc ++ Text.capitalized word) rest = "" ↔ _
      rw [ih, List.forall_mem_cons]
      by_cases hacc : acc = ""
      · rw [if_pos hacc]
        exact ⟨fun h => ⟨hacc, h⟩, fun h => h.2⟩
      · rw [if_neg hacc]
        refine ⟨fun h => ?_, fun h => absurd h.1 hacc⟩
        exact absurd (String.append_eq_empty_iff.mp h.1).1 hacc

/-- Camel case of words, started with a word, is a word. -/
theorem IsWord.camelCaseFrom {acc : String} (hacc : IsWord acc) {words : List String}
    (hwords : ∀ w ∈ words, IsWord w) : IsWord (camelCaseFrom acc words) := by
  induction words generalizing acc with
  | nil => exact hacc
  | cons word rest ih =>
      show IsWord (Text.camelCaseFrom
        (if acc = "" then word else acc ++ Text.capitalized word) rest)
      rw [if_neg hacc.1]
      refine ih (hacc.append ?_) fun w hw => hwords w (List.mem_cons_of_mem _ hw)
      exact (hwords word (List.mem_cons_self ..)).capitalized

/-- Camel case of at least one word is a word. -/
theorem isWord_camelCase {words : List String} (hne : words ≠ [])
    (hwords : ∀ w ∈ words, IsWord w) : IsWord (camelCase words) := by
  cases words with
  | nil => exact absurd rfl hne
  | cons word rest =>
      refine IsWord.camelCaseFrom (hwords word (List.mem_cons_self ..)) ?_
      exact fun w hw => hwords w (List.mem_cons_of_mem _ hw)

/-! ## Grouping -/

/-- The capital of a text that is there is that of its front. -/
theorem capitalized_append {s : String} (h : s ≠ "") (t : String) :
    Text.capitalized (s ++ t) = Text.capitalized s ++ t := by
  obtain ⟨c, rest, hs⟩ := List.exists_cons_of_ne_nil (mt String.toList_eq_nil_iff.mp h)
  have hst : (s ++ t).toList = c :: (rest ++ t.toList) := by
    rw [String.toList_append, hs, List.cons_append]
  refine String.toList_injective ?_
  rw [toList_capitalized hst, String.toList_append, toList_capitalized hs, List.append_assoc]

/-- Words in camel case, capitalized, are the words capitalized one by one. -/
theorem capitalized_camelCase (words : List String) :
    Text.capitalized (camelCase words) = String.join (words.map Text.capitalized) := by
  induction words with
  | nil => rfl
  | cons word rest ih =>
      rw [List.map_cons, String.join_cons]
      by_cases hword : word = ""
      · subst hword
        show Text.capitalized (camelCase rest) = "" ++ _
        rw [String.empty_append, ih]
      · rw [camelCase_cons hword, capitalized_append hword]

/-- Words that are put together first count as one word. -/
theorem camelCaseFrom_singleton_camelCase (acc : String) (words : List String) :
    camelCaseFrom acc [camelCase words] = camelCaseFrom acc words := by
  by_cases hacc : acc = ""
  · subst hacc
    rfl
  · rw [camelCaseFrom_of_ne_empty hacc, camelCaseFrom_of_ne_empty hacc, List.map_singleton,
      capitalized_camelCase, String.join_cons, String.join_nil, String.append_empty]

theorem camelCase_group (xs ys zs : List String) :
    camelCase (xs ++ [camelCase ys] ++ zs) = camelCase (xs ++ ys ++ zs) := by
  simp only [camelCase, camelCaseFrom_append]
  exact congrArg (camelCaseFrom · zs) (camelCaseFrom_singleton_camelCase _ ys)

/-- Behind any words, the empty ones among the others can be left out. -/
theorem camelCase_append_filter (xs words : List String) :
    camelCase (xs ++ words.filter (· ≠ "")) = camelCase (xs ++ words) := by
  induction words generalizing xs with
  | nil => rfl
  | cons word rest ih =>
      by_cases hword : word = ""
      · -- An empty word is what no words at all give.
        subst hword
        have hgroup : camelCase (xs ++ [""] ++ rest) = camelCase (xs ++ [] ++ rest) :=
          camelCase_group xs [] rest
        rw [List.append_nil, List.append_assoc, List.singleton_append] at hgroup
        rw [List.filter_cons_of_neg (by decide), ih, hgroup]
      · have hkept : xs ++ word :: rest.filter (· ≠ "") = xs ++ [word] ++ rest.filter (· ≠ "") := by
          rw [List.append_assoc, List.singleton_append]
        rw [List.filter_cons_of_pos (by simpa using hword), hkept, ih, List.append_assoc,
          List.singleton_append]

/-- **GROUPING DOES NOT MATTER**: any of the words may be put together first.  So empty words
    have no effect, and there is nothing in the result only if there is nothing in the words. -/
theorem camelCase_regroups :
    (∀ xs ys zs : List String,
        camelCase (xs ++ [camelCase ys] ++ zs) = camelCase (xs ++ ys ++ zs))
      ∧ (∀ words : List String, camelCase (words.filter (· ≠ "")) = camelCase words)
      ∧ ∀ words : List String, camelCase words = "" ↔ ∀ w ∈ words, w = "" := by
  refine ⟨camelCase_group, camelCase_append_filter [], ?_⟩
  intro words
  exact camelCaseFrom_eq_empty_iff.trans (and_iff_right rfl)

-- A word that starts in the ligature `ﬁ` has two characters in its place when it is capitalized.
example :
    camelCase ["", "free", "", "ﬁre"] = "freeFIre"
      ∧ camelCase ["free", camelCase ["", "ﬁre", "x86"], "debug"] = "freeFIreX86Debug" := by
  decide

end BuildLayout
