import DidRegistry.Text.Blank
import Mathlib.Data.List.TakeWhile

/-!
# What is stripped off a text

White space is dropped at both ends of a text and nowhere else.

## Results

* `Text.exists_trim` — a text is what is left of it, with white space around that.
* `Text.trim_append` — white space behind a text that has none itself is dropped.
* `Text.mem_trim`, `Text.mem_of_mem_trim` — what is not white space is left, and nothing is added.
* `Text.head?_trim` — what is left does not begin with white space.
-/

set_option autoImplicit false

namespace DidRegistry.Text

variable {α : Type} {p : α → Bool} {s : List α}

/-- **What is stripped off is white space.** -/
theorem exists_trim (p : α → Bool) (s : List α) :
    ∃ before after, s = before ++ trim p s ++ after ∧
      (∀ x ∈ before, p x = true) ∧ ∀ x ∈ after, p x = true := by
  have hpasses : ∀ (l : List α), ∀ x ∈ l.takeWhile p, p x = true := fun l x hx =>
    List.all_eq_true.mp List.all_takeWhile x hx
  refine ⟨s.takeWhile p, ((s.dropWhile p).reverse.takeWhile p).reverse, ?_, hpasses s, fun x hx =>
    hpasses _ x (List.mem_reverse.mp hx)⟩
  rw [trim, dropEndWhile, List.append_assoc, ← List.reverse_append, List.takeWhile_append_dropWhile,
    List.reverse_reverse, List.takeWhile_append_dropWhile]

/-- White space at the end is stripped off what has none otherwise. -/
theorem trim_append {after : List α} (hs : ∀ x ∈ s, p x = false) (ha : ∀ x ∈ after, p x = true) :
    trim p (s ++ after) = s := by
  have hkeep : ∀ l : List α, (∀ x ∈ l, p x = false) → l.dropWhile p = l := by
    intro l hl
    cases l with
    | nil => rfl
    | cons x l => rw [List.dropWhile_cons, hl x List.mem_cons_self]; rfl
  have hreverse : (s ++ after).reverse.dropWhile p = s.reverse := by
    rw [List.reverse_append, List.dropWhile_append_of_pos (by simpa using ha)]
    exact hkeep _ (by simpa using hs)
  cases s with
  | nil =>
    have hnone : after.dropWhile p = [] := List.dropWhile_eq_nil_iff.mpr ha
    rw [List.nil_append, trim, hnone]
    rfl
  | cons x s =>
    have hfront : (x :: s ++ after).dropWhile p = x :: s ++ after := by
      rw [List.cons_append, List.dropWhile_cons, hs x List.mem_cons_self]
      rfl
    rw [trim, hfront, dropEndWhile, hreverse, List.reverse_reverse]

/-- What is not white space is not stripped off. -/
theorem mem_trim {x : α} (hx : x ∈ s) (hp : p x = false) : x ∈ trim p s := by
  obtain ⟨before, after, hs, hbefore, hafter⟩ := exists_trim p s
  rw [hs, List.mem_append, List.mem_append] at hx
  rcases hx with (hx | hx) | hx
  · rw [hbefore x hx] at hp
    cases hp
  · exact hx
  · rw [hafter x hx] at hp
    cases hp

/-- What is left when white space is stripped off was there before. -/
theorem mem_of_mem_trim {x : α} (hx : x ∈ trim p s) : x ∈ s := by
  obtain ⟨before, after, hs, -, -⟩ := exists_trim p s
  rw [hs]
  exact List.mem_append_left after (List.mem_append_right before hx)

/-- What is left does not begin with white space. -/
theorem head?_trim {x : α} (h : (trim p s).head? = some x) : p x = false := by
  have hprefix : trim p s <+: s.dropWhile p := by
    rw [trim, dropEndWhile, ← List.reverse_suffix, List.reverse_reverse]
    exact List.dropWhile_suffix p
  have hhead : (s.dropWhile p).head? = some x := by
    obtain ⟨r, hr⟩ := hprefix
    rw [← hr, List.head?_append, h]
    rfl
  have hnot := List.head?_dropWhile_not p s
  rwa [hhead] at hnot

end DidRegistry.Text
