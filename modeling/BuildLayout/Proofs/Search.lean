import Mathlib.Data.List.Nodup

/-! # Searching lists

    A search takes the first element that fits.  Under a key that is the element asked for if
    keys differ, and otherwise the earliest of those with the key.  A run of writes is searched
    from its end: what is read after it was written last (`read_foldl`). -/

namespace BuildLayout

/-! ## Keys -/

section Keys

variable {α κ : Type} [DecidableEq κ] (key : α → κ) {xs : List α} {x : α} {k : κ}

variable {key} in
theorem key_of_find? (h : xs.find? (key · == k) = some x) : key x = k := by
  have hkey := List.find?_some h
  exact beq_iff_eq.mp hkey

/-- Where keys differ, an element is found under a key exactly if it is there with that key. -/
theorem find?_eq_some_iff_of_nodup (h : (xs.map key).Nodup) :
    xs.find? (key · == k) = some x ↔ x ∈ xs ∧ key x = k := by
  constructor
  · intro hx
    exact ⟨List.mem_of_find?_eq_some hx, key_of_find? hx⟩
  · rintro ⟨hx, rfl⟩
    have hsome : (xs.find? (key · == key x)).isSome = true :=
      List.find?_isSome.mpr ⟨x, hx, beq_self_eq_true _⟩
    obtain ⟨y, hy⟩ := Option.isSome_iff_exists.mp hsome
    rw [hy, List.inj_on_of_nodup_map h (List.mem_of_find?_eq_some hy) hx (key_of_find? hy)]

/-- An entry is the one found under its key exactly if no earlier entry has that key. -/
theorem find?_key_eq_some_iff (hxs : xs.Nodup) {n : Nat} {x : α} (hn : xs[n]? = some x) :
    xs.find? (key · == key x) = some x ↔ ∀ m < n, ∀ y, xs[m]? = some y → key y ≠ key x := by
  rw [List.find?_eq_some_iff_getElem]
  constructor
  · rintro ⟨-, k, hk, hkx, hfirst⟩ m hm y hy hkey
    -- The entry stands at no other position than its own.
    have hkn : k = n :=
      (List.getElem?_inj hk hxs).mp ((List.getElem?_eq_some_iff.mpr ⟨hk, hkx⟩).trans hn.symm)
    subst hkn
    obtain ⟨_, rfl⟩ := List.getElem?_eq_some_iff.mp hy
    have hother := hfirst m hm
    rw [hkey, beq_self_eq_true] at hother
    exact nomatch hother
  · intro h
    obtain ⟨hbound, hx⟩ := List.getElem?_eq_some_iff.mp hn
    refine ⟨beq_self_eq_true _, n, hbound, hx, ?_⟩
    intro m hm
    have hother := h m hm _ (List.getElem?_eq_getElem (Nat.lt_trans hm hbound))
    rw [beq_eq_false_iff_ne.mpr hother]
    rfl

/-- Every entry is the one found under its key exactly if no key occurs twice. -/
theorem find?_own_key_iff (hxs : xs.Nodup) :
    (∀ x ∈ xs, xs.find? (key · == key x) = some x) ↔ (xs.map key).Nodup := by
  rw [List.nodup_map_iff_inj_on hxs]
  constructor
  · intro h x hx y hy hxy
    -- Under their common key there is only one entry to find.
    have hfound := h x hx
    rw [hxy, h y hy] at hfound
    exact (Option.some.inj hfound).symm
  · intro h x hx
    exact (find?_eq_some_iff_of_nodup key (List.Nodup.map_on h hxs)).mpr ⟨hx, rfl⟩

/-- Searched from its end, a list gives the last entry under a key. -/
theorem find?_reverse_eq_some_iff :
    xs.reverse.find? (key · == k) = some x
      ↔ key x = k ∧ ∃ front back, xs = front ++ x :: back ∧ k ∉ back.map key := by
  rw [List.find?_eq_some_iff_append, beq_iff_eq]
  refine and_congr_right fun _ => ?_
  constructor
  · rintro ⟨after, before, hxs, hother⟩
    refine ⟨before.reverse, after.reverse, ?_, ?_⟩
    · rw [← List.reverse_reverse xs, hxs, List.reverse_append, List.reverse_cons,
        List.append_assoc, List.singleton_append]
    · intro hmem
      obtain ⟨y, hy, hkey⟩ := List.mem_map.mp hmem
      have hne := hother y (List.mem_reverse.mp hy)
      rw [hkey, beq_self_eq_true] at hne
      exact nomatch hne
  · rintro ⟨front, back, rfl, hback⟩
    refine ⟨back.reverse, front.reverse, ?_, ?_⟩
    · rw [List.reverse_append, List.reverse_cons, List.append_assoc, List.singleton_append]
    · intro y hy
      have hne : key y ≠ k := fun hkey =>
        hback (List.mem_map.mpr ⟨y, List.mem_reverse.mp hy, hkey⟩)
      rw [beq_eq_false_iff_ne.mpr hne]
      rfl

theorem find?_reverse_eq_none_iff :
    xs.reverse.find? (key · == k) = none ↔ k ∉ xs.map key := by
  simp only [List.find?_eq_none, List.mem_reverse, beq_iff_eq, List.mem_map, not_exists, not_and]

end Keys

/-! ## Values -/

section Values

variable {σ α β : Type}

/-- Where at most one element has a value, a search finds it wherever it stands. -/
theorem findSome?_eq_some_iff_of_pairwise {f : α → Option β} {xs : List α}
    (h : xs.Pairwise fun x y => f x = none ∨ f y = none) {b : β} :
    xs.findSome? f = some b ↔ ∃ x ∈ xs, f x = some b := by
  constructor
  · exact List.exists_of_findSome?_eq_some
  · rintro ⟨x, hx, hfx⟩
    obtain ⟨front, back, rfl⟩ := List.append_of_mem hx
    obtain ⟨-, -, hcross⟩ := List.pairwise_append.mp h
    have hfront : ∀ y ∈ front, f y = none := by
      intro y hy
      rcases hcross y hy x (List.mem_cons_self ..) with hnone | hnone
      · exact hnone
      · rw [hfx] at hnone
        exact nomatch hnone
    rw [List.findSome?_append, List.findSome?_eq_none_iff.mpr hfront, Option.none_or,
      List.findSome?_cons_of_isSome (by rw [hfx]; rfl), hfx]

/-- **FIRST IN ORDER**: in an ordered list, what a search finds is the value of the element
    that comes before all others with a value. -/
theorem findSome?_eq_some_iff_of_order {R : α → α → Prop} (hasymm : ∀ x y, R x y → ¬ R y x)
    {f : α → Option β} {xs : List α} (h : xs.Pairwise R) {b : β} :
    xs.findSome? f = some b
      ↔ ∃ x ∈ xs, f x = some b ∧ ∀ y ∈ xs, (∃ c, f y = some c) → y = x ∨ R x y := by
  constructor
  · intro hfound
    obtain ⟨front, x, back, rfl, hfx, hfront⟩ := List.findSome?_eq_some_iff.mp hfound
    obtain ⟨-, hback, -⟩ := List.pairwise_append.mp h
    refine ⟨x, List.mem_append_right _ (List.mem_cons_self ..), hfx, ?_⟩
    rintro y hy ⟨c, hfy⟩
    rcases List.mem_append.mp hy with hy | hy
    · rw [hfront y hy] at hfy
      exact nomatch hfy
    · rcases List.mem_cons.mp hy with hyx | hy
      · exact Or.inl hyx
      · exact Or.inr ((List.pairwise_cons.mp hback).1 y hy)
  · rintro ⟨x, hx, hfx, hfirst⟩
    obtain ⟨front, back, rfl⟩ := List.append_of_mem hx
    obtain ⟨-, -, hcross⟩ := List.pairwise_append.mp h
    refine List.findSome?_eq_some_iff.mpr ⟨front, x, back, rfl, hfx, ?_⟩
    intro y hy
    have hyx : R y x := hcross y hy x (List.mem_cons_self ..)
    cases hfy : f y with
    | none => rfl
    | some c =>
        rcases hfirst y (List.mem_append_left _ hy) ⟨c, hfy⟩ with rfl | hxy
        · exact absurd hyx (hasymm y y hyx)
        · exact absurd hyx (hasymm x y hxy)

/-- **THE LAST WRITE WINS**: where each step of a run either writes what is read or leaves it,
    the run ends with what was written last. -/
theorem read_foldl {f : σ → Option β} {step : σ → α → σ} {written : α → Option β}
    (h : ∀ s a, f (step s a) = (written a).or (f s)) (s : σ) (as : List α) :
    f (as.foldl step s) = (as.reverse.findSome? written).or (f s) := by
  induction as generalizing s with
  | nil => rfl
  | cons a rest ih =>
      rw [List.foldl_cons, ih, h, List.reverse_cons, List.findSome?_append, Option.or_assoc]
      cases hw : written a with
      | none => rw [List.findSome?_cons_of_isNone (by rw [hw]; rfl)]; rfl
      | some b => rw [List.findSome?_cons_of_isSome (by rw [hw]; rfl), hw]

end Values

end BuildLayout
