import Mathlib.Data.List.Basic

/-! # Joined texts

When texts are written one behind another with separators between, the parts can be found again if
none of them looks as if it went on behind its end. `ToldApart` says so of two parts, whatever is
written behind them, as long as it begins with one of a few marks; it passes from the parts to the
lists that are joined of them (`ToldApart.join`). -/

namespace BindingPlan

theorem intercalate_append (sep : String) {back : List String} (some : back ≠ []) :
    ∀ {front : List String}, front ≠ [] → String.intercalate sep (front ++ back) =
      String.intercalate sep front ++ sep ++ String.intercalate sep back
  | [part], _ => by
    obtain ⟨next, rest, rfl⟩ := List.exists_cons_of_ne_nil some
    rw [List.singleton_append, String.intercalate_cons_cons, String.intercalate_singleton]
  | part :: next :: rest, _ => by
    rw [List.cons_append, List.cons_append, String.intercalate_cons_cons, ← List.cons_append,
      intercalate_append sep some (List.cons_ne_nil next rest), String.intercalate_cons_cons]
    simp only [String.append_assoc]

/-! ### Parts told apart -/

/-- What is written behind a part is nothing, or it begins with one of the marks. -/
def Behind (marks rest : List Char) : Prop :=
  ∀ c ∈ rest.head?, c ∈ marks

theorem behind_nil (marks : List Char) : Behind marks [] := by
  simp [Behind]

theorem behind_cons {marks rest : List Char} {mark : Char} (h : mark ∈ marks) :
    Behind marks (mark :: rest) := by
  simpa [Behind] using h

theorem Behind.mono {marks marks' rest : List Char} (h : Behind marks rest)
    (sub : ∀ c ∈ marks, c ∈ marks') : Behind marks' rest :=
  fun c mem => sub c (h c mem)

/-- Where the texts of two parts go on with marks and come to the same in all, the parts are the
same and so is what is behind them. -/
def ToldApart {α : Type} (text : α → List Char) (marks : List Char) (x y : α) : Prop :=
  ∀ ⦃rest rest' : List Char⦄, Behind marks rest → Behind marks rest' →
    text x ++ rest = text y ++ rest' → x = y ∧ rest = rest'

theorem ToldApart.symm {α : Type} {text : α → List Char} {marks : List Char} {x y : α}
    (h : ToldApart text marks x y) : ToldApart text marks y x := by
  intro rest rest' behind behind' same
  obtain ⟨parts, rests⟩ := h behind' behind same.symm
  exact ⟨parts.symm, rests.symm⟩

theorem eq_of_run_append_eq {p : Char → Prop} {run run' rest rest' : List Char}
    (all : ∀ c ∈ run, p c) (all' : ∀ c ∈ run', p c) (stop : ∀ c ∈ rest.head?, ¬ p c)
    (stop' : ∀ c ∈ rest'.head?, ¬ p c) (same : run ++ rest = run' ++ rest') :
    run = run' ∧ rest = rest' := by
  induction run generalizing run' with
  | nil =>
    cases run' with
    | nil => exact ⟨rfl, same⟩
    | cons c run' =>
      have head : rest = c :: (run' ++ rest') := same
      exact absurd (all' c List.mem_cons_self) (stop c (by simp [head]))
  | cons c run ih =>
    cases run' with
    | nil =>
      have head : c :: (run ++ rest) = rest' := same
      exact absurd (all c List.mem_cons_self) (stop' c (by simp [← head]))
    | cons c' run' =>
      obtain ⟨rfl, tails⟩ := List.cons.inj same
      obtain ⟨rfl, rests⟩ := ih (fun d mem => all d (List.mem_cons_of_mem c mem))
        (fun d mem => all' d (List.mem_cons_of_mem c mem)) tails
      exact ⟨rfl, rests⟩

/-- **Lists joined of parts that are told apart are told apart**, if the separator is none of the
marks that may stand behind the whole. -/
theorem ToldApart.join {α : Type} {text : α → List Char} {sep : Char} {marks : List Char}
    (new : sep ∉ marks) : ∀ {xs ys : List α}, xs ≠ [] → ys ≠ [] →
      (∀ x ∈ xs, ∀ y ∈ ys, ToldApart text (sep :: marks) x y) →
      ToldApart (fun parts => List.intercalate [sep] (parts.map text)) marks xs ys
  | [x], [y], _, _, apart => by
    intro rest rest' behind behind' same
    obtain ⟨rfl, rests⟩ := apart x (List.mem_singleton_self x) y (List.mem_singleton_self y)
      (behind.mono fun c => List.mem_cons_of_mem sep)
      (behind'.mono fun c => List.mem_cons_of_mem sep)
      (by simpa using same)
    exact ⟨rfl, rests⟩
  | [x], y :: next :: ys, _, _, apart => by
    intro rest rest' behind behind' same
    obtain ⟨-, rests⟩ := apart x (List.mem_singleton_self x) y List.mem_cons_self
      (behind.mono fun c => List.mem_cons_of_mem sep) (behind_cons List.mem_cons_self)
      (by simpa using same)
    exact absurd (behind sep (by simp [rests])) new
  | x :: next :: xs, [y], _, _, apart => by
    intro rest rest' behind behind' same
    obtain ⟨-, rests⟩ := apart x List.mem_cons_self y (List.mem_singleton_self y)
      (behind_cons List.mem_cons_self) (behind'.mono fun c => List.mem_cons_of_mem sep)
      (by simpa using same)
    exact absurd (behind' sep (by simp [← rests])) new
  | x :: next :: xs, y :: next' :: ys, _, _, apart => by
    intro rest rest' behind behind' same
    obtain ⟨rfl, rests⟩ := apart x List.mem_cons_self y List.mem_cons_self
      (behind_cons List.mem_cons_self) (behind_cons List.mem_cons_self) (by simpa using same)
    have others := ToldApart.join new (List.cons_ne_nil next xs) (List.cons_ne_nil next' ys)
      fun x' mem y' mem' => apart x' (List.mem_cons_of_mem x mem) y' (List.mem_cons_of_mem x mem')
    obtain ⟨tails, rests⟩ := others behind behind' (by simpa using (List.cons.inj rests).2)
    exact ⟨by rw [tails], rests⟩

end BindingPlan
