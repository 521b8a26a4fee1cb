import BindingPlan.Error
import Mathlib.Data.List.Basic

/-! # Rules in order

A rule is a condition together with the error that reports that it fails. Of a list of rules the
first one that fails counts (`FirstBroken`). A computation checks a list of rules if it has a value
only if all of them hold, and otherwise the error of the first one that fails; so it is known when
it fails and how (`Checks.exists_ok_iff`, `Checks.error_iff`). Two such computations in sequence
check both lists, one behind the other (`Checks.bind`), and longer ones are taken apart that way. -/

namespace BindingPlan

/-- A condition, and the error that reports that it fails. -/
structure Rule where
  holds : Prop
  error : BindingError

/-- The error is that of the first rule that fails. -/
inductive FirstBroken : List Rule → BindingError → Prop
  | here {rule : Rule} (rest : List Rule) (broken : ¬ rule.holds) :
      FirstBroken (rule :: rest) rule.error
  | later {rule : Rule} {rest : List Rule} {error : BindingError} (kept : rule.holds)
      (broken : FirstBroken rest error) : FirstBroken (rule :: rest) error

namespace FirstBroken
variable {rules rules' : List Rule} {error error' : BindingError}

theorem not_kept (h : FirstBroken rules error) : ¬ ∀ rule ∈ rules, rule.holds := by
  induction h with
  | here rest broken => exact fun kept => broken (kept _ List.mem_cons_self)
  | later _ _ ih => exact fun kept => ih fun rule mem => kept rule (List.mem_cons_of_mem _ mem)

theorem exists_mem (h : FirstBroken rules error) : ∃ rule ∈ rules, rule.error = error := by
  induction h with
  | here rest broken => exact ⟨_, List.mem_cons_self, rfl⟩
  | later _ _ ih =>
    obtain ⟨rule, mem, rfl⟩ := ih
    exact ⟨rule, List.mem_cons_of_mem _ mem, rfl⟩

theorem unique (h : FirstBroken rules error) (h' : FirstBroken rules error') : error = error' := by
  induction h with
  | here rest broken =>
    cases h' with
    | here => rfl
    | later kept => exact absurd kept broken
  | later kept _ ih =>
    cases h' with
    | here _ broken => exact absurd kept broken
    | later _ broken => exact ih broken

theorem append_right (h : FirstBroken rules error) (rules' : List Rule) :
    FirstBroken (rules ++ rules') error := by
  induction h with
  | here rest broken => exact .here (rest ++ rules') broken
  | later kept _ ih => exact .later kept ih

theorem append_left (h : FirstBroken rules' error) :
    ∀ {rules : List Rule}, (∀ rule ∈ rules, rule.holds) → FirstBroken (rules ++ rules') error
  | [], _ => h
  | _ :: _, kept => by
    obtain ⟨first, others⟩ := List.forall_mem_cons.mp kept
    exact .later first (h.append_left others)

end FirstBroken

/-- A computation checks rules: it has a value only if all of them hold, and its error is that of
the first one that fails. -/
structure Checks {α : Type} (rules : List Rule) (x : Except BindingError α) : Prop where
  kept : ∀ a, x = .ok a → ∀ rule ∈ rules, rule.holds
  broken : ∀ e, x = .error e → FirstBroken rules e

namespace Checks
variable {α β : Type} {rules rules' : List Rule} {rule : Rule}

theorem ok (a : α) : Checks [] (.ok a) where
  kept _ _ := by simp
  broken _ h := by cases h

theorem ok_single (a : α) (kept : rule.holds) : Checks [rule] (.ok a) where
  kept _ _ := by simpa using kept
  broken _ h := by cases h

theorem error (rest : List Rule) (broken : ¬ rule.holds) :
    Checks (rule :: rest) (.error rule.error : Except BindingError α) where
  kept _ h := by cases h
  broken _ h := by
    cases h
    exact .here rest broken

theorem cons {x : Except BindingError α} (first : rule.holds) (h : Checks rules x) :
    Checks (rule :: rules) x where
  kept a value := List.forall_mem_cons.mpr ⟨first, h.kept a value⟩
  broken e error := .later first (h.broken e error)

/-- **Two steps** check the rules of the first one and then those of the second one. -/
theorem bind {x : Except BindingError α} {f : α → Except BindingError β} (first : Checks rules x)
    (second : ∀ a, x = .ok a → Checks rules' (f a)) : Checks (rules ++ rules') (x >>= f) := by
  cases x with
  | error e =>
    refine ⟨nofun, ?_⟩
    rintro _ ⟨⟩
    exact (first.broken e rfl).append_right rules'
  | ok a =>
    have kept := first.kept a rfl
    refine ⟨fun b h => ?_, fun e h => ?_⟩
    · exact List.forall_mem_append.mpr ⟨kept, (second a rfl).kept b h⟩
    · exact ((second a rfl).broken e h).append_left kept

theorem map {x : Except BindingError α} (h : Checks rules x) (f : α → β) :
    Checks rules (x.map f) := by
  cases x with
  | error e =>
    refine ⟨nofun, ?_⟩
    rintro _ ⟨⟩
    exact h.broken e rfl
  | ok a =>
    refine ⟨fun _ _ => h.kept a rfl, fun e error => ?_⟩
    rw [Except.map] at error
    cases error

theorem exists_ok_iff {x : Except BindingError α} (h : Checks rules x) :
    (∃ a, x = .ok a) ↔ ∀ rule ∈ rules, rule.holds := by
  constructor
  · rintro ⟨a, value⟩
    exact h.kept a value
  · intro kept
    cases result : x with
    | ok a => exact ⟨a, rfl⟩
    | error e => exact absurd kept (h.broken e result).not_kept

theorem error_iff {x : Except BindingError α} (h : Checks rules x) {e : BindingError} :
    x = .error e ↔ FirstBroken rules e := by
  refine ⟨h.broken e, fun broken => ?_⟩
  cases result : x with
  | ok a => exact absurd (h.kept a result) broken.not_kept
  | error e' => rw [(h.broken e' result).unique broken]

end Checks

end BindingPlan
