import Mathlib.Data.String.Basic
import Mathlib.Tactic.SplitIfs
import BuildLayout.Proofs.Properties
import BuildLayout.Proofs.Search

/-! # Values that count

    Layers may give a name many values, and the last one counts.  `effective` finds it by
    inserting one assignment after the other into an ordered list; `last?` looks for it from
    the end, without any order.  What is found under a name is the same
    (`find?_effective`), and the list holds each name once, in the order of the bytes of the
    names (`pairwise_effective`, `bytes_lt`). -/

namespace BuildLayout

/-! ## The order of names -/

/-- The bytes of a text. -/
def bytes (s : String) : List UInt8 := s.toUTF8.data.toList

theorem bytes_eq_flatMap (s : String) : bytes s = s.toList.flatMap String.utf8EncodeChar := by
  show s.toByteArray.data.toList = _
  rw [← String.utf8Encode_toList]
  exact List.toList_data_toByteArray

theorem cons_ofNat_lt_iff {a b : Nat} (ha : a < 256) (hb : b < 256) {x y : List UInt8} :
    UInt8.ofNat a :: x < UInt8.ofNat b :: y ↔ a < b ∨ a = b ∧ x < y := by
  have heq : UInt8.ofNat a = UInt8.ofNat b ↔ a = b := by
    rw [← UInt8.toNat_inj, UInt8.toNat_ofNat', UInt8.toNat_ofNat']
    omega
  rw [List.cons_lt_cons_iff, UInt8.ofNat_lt_iff_lt ha hb, heq]

/-- Whatever follows, the bytes of the smaller character come first. -/
theorem utf8EncodeChar_append_lt {c d : Char} (h : c < d) (x y : List UInt8) :
    String.utf8EncodeChar c ++ x < String.utf8EncodeChar d ++ y := by
  have hlt : c.val.toNat < d.val.toNat := UInt32.lt_iff_toNat_lt.mp (Char.lt_def.mp h)
  have hbound : d.val.toNat < 0x110000 := by
    rcases d.valid with hlow | ⟨-, hhigh⟩
    · exact Nat.lt_trans hlow (by decide)
    · exact hhigh
  have hdigits : ∀ v : Nat, v / 4096 = v / 64 / 64 ∧ v / 262144 = v / 64 / 64 / 64 := by omega
  simp only [String.utf8EncodeChar, hdigits]
  generalize c.val.toNat = v at hlt
  generalize d.val.toNat = w at hlt hbound
  -- The first byte tells how many there are; in equal numbers they are digits to base 64.
  split_ifs
  all_goals
    simp (disch := omega) only [List.cons_append, List.nil_append, cons_ofNat_lt_iff]
    omega

/-- **NAMES ARE ORDERED BY THEIR BYTES**. -/
theorem bytes_lt {s t : String} (h : s < t) : bytes s < bytes t := by
  rw [bytes_eq_flatMap, bytes_eq_flatMap]
  have hlists : s.toList < t.toList := String.lt_iff_toList_lt.mp h
  generalize s.toList = cs at hlists
  generalize t.toList = ds at hlists
  induction cs generalizing ds with
  | nil =>
      cases ds with
      | nil => exact absurd hlists (List.lt_irrefl _)
      | cons d ds =>
          have hne : (d :: ds).flatMap String.utf8EncodeChar ≠ [] := by
            rw [List.flatMap_cons]
            exact fun hnil => String.utf8EncodeChar_ne_nil (List.append_eq_nil_iff.mp hnil).1
          obtain ⟨b, rest, hbytes⟩ := List.exists_cons_of_ne_nil hne
          rw [hbytes]
          exact List.nil_lt_cons b rest
  | cons c cs ih =>
      cases ds with
      | nil => exact absurd hlists (List.not_lt_nil _)
      | cons d ds =>
          rw [List.flatMap_cons, List.flatMap_cons]
          rcases List.cons_lt_cons_iff.mp hlists with hcd | ⟨rfl, hrest⟩
          · exact utf8EncodeChar_append_lt hcd _ _
          · exact List.append_left_lt (ih ds hrest)

theorem lt_of_bytes_lt {s t : String} (h : bytes s < bytes t) : s < t := by
  rcases lt_trichotomy s t with hlt | rfl | hgt
  · exact hlt
  · exact absurd h (List.lt_irrefl _)
  · exact absurd h (List.lt_asymm (bytes_lt hgt))

/-! ## Assignments -/

namespace Assignment

variable {a : Assignment} {kept given : List Assignment} {layers : List Layer} {name : String}

/-- The last value that the layers give a name, with the source that gives it. -/
def last? (layers : List Layer) (name : String) : Option Assignment :=
  (layers.flatMap fun l => l.values.map fun g => ⟨g.1, g.2, l.source⟩).reverse.find?
    (·.name == name)

theorem last?_eq_find? (layers : List Layer) (name : String) :
    last? layers name = (layers.flatMap Layer.assignments).reverse.find? (·.name == name) := rfl

/-- What an assignment says about a name. -/
def under (name : String) (a : Assignment) : Option Assignment :=
  if a.name = name then some a else none

theorem find?_cons_eq_or (a : Assignment) (rest : List Assignment) (name : String) :
    (a :: rest).find? (·.name == name)
      = (a.under name).or (rest.find? (·.name == name)) := by
  by_cases h : a.name = name
  · have hkey : (a.name == name) = true := beq_iff_eq.mpr h
    rw [under, if_pos h, List.find?_cons, hkey]
    rfl
  · have hkey : (a.name == name) = false := beq_eq_false_iff_ne.mpr h
    rw [under, if_neg h, List.find?_cons, hkey]
    rfl

/-- **STEP**: inserting an assignment changes what is found under its own name only. -/
theorem find?_insert (a : Assignment) (kept : List Assignment) (name : String) :
    (insert a kept).find? (·.name == name)
      = (a.under name).or (kept.find? (·.name == name)) := by
  induction kept with
  | nil => exact find?_cons_eq_or a [] name
  | cons b rest ih =>
      show (if a.name = b.name then a :: rest
        else if a.name < b.name then a :: b :: rest
        else b :: insert a rest).find? _ = _
      by_cases heq : a.name = b.name
      · -- The assignment takes the place of the other, which says nothing else.
        rw [if_pos heq, find?_cons_eq_or, find?_cons_eq_or b]
        by_cases hname : a.name = name
        · rw [under, if_pos hname]
          rfl
        · rw [under, under, if_neg hname, if_neg (heq ▸ hname)]
          rfl
      · rw [if_neg heq]
        by_cases hlt : a.name < b.name
        · rw [if_pos hlt, find?_cons_eq_or]
        · rw [if_neg hlt, find?_cons_eq_or, ih, find?_cons_eq_or b]
          by_cases hname : b.name = name
          · have hother : a.name ≠ name := fun h => heq (h.trans hname.symm)
            rw [under, under, if_pos hname, if_neg hother]
            rfl
          · rw [under, under, if_neg hname]
            rfl

theorem last?_eq_findSome? (layers : List Layer) (name : String) :
    last? layers name
      = (layers.flatMap Layer.assignments).reverse.findSome? (Assignment.under name) := by
  rw [last?_eq_find?]
  generalize (layers.flatMap Layer.assignments).reverse = given
  induction given with
  | nil => rfl
  | cons a rest ih =>
      rw [find?_cons_eq_or, ih, List.findSome?_cons]
      cases a.under name with
      | none => rfl
      | some b => rfl

/-- **WHAT COUNTS IS THE LAST**: under each name. -/
theorem find?_effective (layers : List Layer) (name : String) :
    (effective layers).find? (·.name == name) = last? layers name := by
  have hrun := read_foldl (fun kept a => find?_insert a kept name) []
    (layers.flatMap Layer.assignments)
  show (List.foldl _ [] _).find? _ = _
  rw [hrun, last?_eq_findSome?]
  exact Option.or_none

theorem name_of_last? (h : last? layers name = some a) : a.name = name :=
  key_of_find? h

/-- Inserting keeps the names in their order. -/
theorem pairwise_insert (h : kept.Pairwise (·.name < ·.name)) :
    (insert a kept).Pairwise (·.name < ·.name) := by
  induction kept with
  | nil => exact List.pairwise_singleton _ _
  | cons b rest ih =>
      obtain ⟨hb, hrest⟩ := List.pairwise_cons.mp h
      show (if a.name = b.name then a :: rest
        else if a.name < b.name then a :: b :: rest
        else b :: insert a rest).Pairwise _
      by_cases heq : a.name = b.name
      · rw [if_pos heq, List.pairwise_cons, heq]
        exact ⟨hb, hrest⟩
      · rw [if_neg heq]
        by_cases hlt : a.name < b.name
        · rw [if_pos hlt]
          refine List.pairwise_cons.mpr ⟨?_, h⟩
          intro c hc
          rcases List.mem_cons.mp hc with rfl | hc
          · exact hlt
          · exact String.lt_trans hlt (hb c hc)
        · rw [if_neg hlt]
          refine List.pairwise_cons.mpr ⟨?_, ih hrest⟩
          intro c hc
          rcases mem_insert_names.mp (List.mem_map_of_mem hc) with hname | hname
          · rw [hname]
            exact lt_of_le_of_ne (String.not_lt.mp hlt) (Ne.symm heq)
          · obtain ⟨d, hd, hdc⟩ := List.mem_map.mp hname
            rw [← hdc]
            exact hb d hd

theorem pairwise_foldl_insert (h : kept.Pairwise (·.name < ·.name)) :
    (given.foldl (fun kept a => insert a kept) kept).Pairwise (·.name < ·.name) := by
  induction given generalizing kept with
  | nil => exact h
  | cons a rest ih => exact ih (pairwise_insert h)

/-- **EACH NAME ONCE**, in order. -/
theorem pairwise_effective (layers : List Layer) :
    (effective layers).Pairwise (·.name < ·.name) :=
  pairwise_foldl_insert List.Pairwise.nil

/-- An assignment whose name comes last is put at the end. -/
theorem insert_of_lt (h : ∀ b ∈ kept, b.name < a.name) : insert a kept = kept ++ [a] := by
  induction kept with
  | nil => rfl
  | cons b rest ih =>
      obtain ⟨hb, hrest⟩ := List.forall_mem_cons.mp h
      show (if a.name = b.name then a :: rest
        else if a.name < b.name then a :: b :: rest
        else b :: insert a rest) = b :: (rest ++ [a])
      rw [if_neg (ne_of_gt hb), if_neg (lt_asymm hb), ih hrest]

theorem foldl_insert_of_pairwise (h : (kept ++ given).Pairwise (·.name < ·.name)) :
    given.foldl (fun kept a => insert a kept) kept = kept ++ given := by
  induction given generalizing kept with
  | nil => exact (List.append_nil kept).symm
  | cons a rest ih =>
      have hlast : ∀ b ∈ kept, b.name < a.name :=
        fun b hb => (List.pairwise_append.mp h).2.2 b hb a (List.mem_cons_self ..)
      have hassoc : kept ++ a :: rest = kept ++ [a] ++ rest := by
        rw [List.append_assoc]
        rfl
      rw [hassoc] at h
      rw [List.foldl_cons, insert_of_lt hlast, ih h, hassoc]

/-- Assignments that come in the order of their names all count, as they come. -/
theorem effective_of_pairwise
    (h : (layers.flatMap Layer.assignments).Pairwise (·.name < ·.name)) :
    effective layers = layers.flatMap Layer.assignments :=
  foldl_insert_of_pairwise h

/-- The assignments that count are the last ones. -/
theorem mem_effective_iff : a ∈ effective layers ↔ last? layers a.name = some a := by
  have hone : ((effective layers).map Assignment.name).Nodup :=
    List.pairwise_map.mpr ((pairwise_effective layers).imp fun hlt => ne_of_lt hlt)
  rw [← find?_effective, find?_eq_some_iff_of_nodup name hone]
  exact (and_iff_left rfl).symm

end Assignment

end BuildLayout
