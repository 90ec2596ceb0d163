/-!
# Sorting by text

Answers that a reader can compare are listed in the order of the code points of their text.
`sortBy key` sorts a list by such a text; the sort is stable, so elements of one text keep their
order.

## Main statements

* `mem_sortBy`: sorting keeps the elements.
* `sortBy_perm`: a sorted list is a permutation of the list it comes from.
* `sorted_sortBy`: a sorted list is in the order of the texts.
* `map_eq_of_sorted`: what is seen of a sorted list does not depend on the order before the sort.
* `sortBy_eq_of_perm`: nor does the sorted list itself, if the texts tell its elements apart.
-/

namespace LinkedShapes.Text

/-- The list sorted by the text of its elements, elements of one text in their first order. -/
def sortBy {α : Type} (key : α → String) (items : List α) : List α :=
  items.mergeSort fun a b => decide (key a ≤ key b)

/-- The texts in increasing order of their code points. -/
def sorted (texts : List String) : List String :=
  sortBy id texts

theorem sortBy_perm {α : Type} (key : α → String) (items : List α) :
    (sortBy key items).Perm items :=
  List.mergeSort_perm items _

@[simp]
theorem mem_sortBy {α : Type} {key : α → String} {items : List α} {a : α} :
    a ∈ sortBy key items ↔ a ∈ items :=
  (sortBy_perm key items).mem_iff

@[simp]
theorem length_sortBy {α : Type} (key : α → String) (items : List α) :
    (sortBy key items).length = items.length :=
  (sortBy_perm key items).length_eq

theorem sorted_sortBy {α : Type} (key : α → String) (items : List α) :
    (sortBy key items).Pairwise (key · ≤ key ·) := by
  let le (a b : α) : Bool := decide (key a ≤ key b)
  have trans (a b c : α) (ab : le a b = true) (bc : le b c = true) : le a c = true := by
    simp only [le, decide_eq_true_eq] at *
    exact String.le_trans ab bc
  have total (a b : α) : (le a b || le b a) = true := by
    simp only [le, Bool.or_eq_true, decide_eq_true_eq]
    exact String.le_total (key a) (key b)
  have ordered := List.pairwise_mergeSort trans total items
  simpa [sortBy, le] using ordered

/-- Lists in the order of their texts that have the same elements show the same, if what is shown of an
element is determined by its text. -/
theorem map_eq_of_sorted {α β : Type} {key : α → String} {f : α → β} {items others : List α}
    (sorted : items.Pairwise (key · ≤ key ·)) (sorted' : others.Pairwise (key · ≤ key ·))
    (perm : items.Perm others) (determined : ∀ a b, key a = key b → f a = f b) :
    items.map f = others.map f := by
  let shown (a : α) : String × β := (key a, f a)
  have shown_sorted {l : List α} (h : l.Pairwise (key · ≤ key ·)) :
      (l.map shown).Pairwise (·.1 ≤ ·.1) := List.pairwise_map.2 h
  have antisymm : ∀ x y, x ∈ items.map shown → y ∈ others.map shown → x.1 ≤ y.1 → y.1 ≤ x.1 →
      x = y := by
    intro x y hx hy le ge
    obtain ⟨a, -, rfl⟩ := List.mem_map.1 hx
    obtain ⟨b, -, rfl⟩ := List.mem_map.1 hy
    have text : key a = key b := String.le_antisymm le ge
    exact Prod.ext text (determined a b text)
  have same : items.map shown = others.map shown :=
    (perm.map shown).eq_of_pairwise antisymm (shown_sorted sorted) (shown_sorted sorted')
  have forget (l : List α) : l.map f = (l.map shown).map Prod.snd := by
    rw [List.map_map]
    rfl
  rw [forget items, forget others, same]

/-- Elements that are told apart by their texts have only one sorted list. -/
theorem sortBy_eq_of_perm {α : Type} {key : α → String} {items others : List α}
    (perm : items.Perm others)
    (apart : ∀ a ∈ items, ∀ b ∈ items, key a = key b → a = b) :
    sortBy key items = sortBy key others := by
  have sortedPerm : (sortBy key items).Perm (sortBy key others) :=
    (sortBy_perm key items).trans (perm.trans (sortBy_perm key others).symm)
  have antisymm : ∀ a b, a ∈ sortBy key items → b ∈ sortBy key others → key a ≤ key b →
      key b ≤ key a → a = b := by
    intro a b ha hb le ge
    exact apart a (mem_sortBy.1 ha) b (perm.mem_iff.2 (mem_sortBy.1 hb)) (String.le_antisymm le ge)
  exact sortedPerm.eq_of_pairwise antisymm (sorted_sortBy key items) (sorted_sortBy key others)

end LinkedShapes.Text
