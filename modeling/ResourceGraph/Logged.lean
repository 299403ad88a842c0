import ResourceGraph.Problem

/-! # Results with warnings

Warnings are raised on the way to a result, and those raised before a failure stay.  `Logged` is
the monad of such results.  Apart from its laws there is `outcome_foldl_induction`: what every
step of a fold preserves, as long as it succeeds, holds of the outcome.
-/

namespace ResourceGraph

/-- The parts of a bundle in which a later stack may override an earlier one with a warning. -/
inductive MergedPart where
  | table
  | modelResolver
  | secondaryIndexResolver
deriving DecidableEq, Inhabited

def MergedPart.label : MergedPart → String
  | table => "table"
  | modelResolver => "model resolver"
  | secondaryIndexResolver => "secondary-index resolver"

inductive Warning where
  /-- A stack declares a table that it has declared before. -/
  | tableTwice (stack table : String)
  | modelTwice (bundle field : String)
  | overridden (bundle : String) (part : MergedPart) (key : String)
deriving DecidableEq, Inhabited

def Warning.text : Warning → String
  | tableTwice stack table => stack ++ ": table " ++ table ++ " declared twice, keeping last"
  | modelTwice bundle field =>
    bundle ++ ": model resolver " ++ field ++ " declared twice, keeping last"
  | overridden bundle part key =>
    "Merging " ++ bundle ++ ": " ++ part.label ++ " " ++ key ++ " already present, overriding"

/-- A result that may fail, and the warnings raised until then. -/
structure Logged (α : Type) where
  warnings : List Warning
  outcome : Outcome α

namespace Logged

variable {α β γ : Type}

@[ext] theorem ext {x y : Logged α} (h_warnings : x.warnings = y.warnings)
    (h_outcome : x.outcome = y.outcome) : x = y := by
  cases x; cases y; cases h_warnings; cases h_outcome; rfl

/-- A result without warnings. -/
def ofOutcome (outcome : Outcome α) : Logged α := ⟨[], outcome⟩

def pure (a : α) : Logged α := ⟨[], .ok a⟩

/-- Go on with a result; the warnings of both steps are kept in order. -/
def bind (x : Logged α) (f : α → Logged β) : Logged β :=
  match x.outcome with
  | .ok a => ⟨x.warnings ++ (f a).warnings, (f a).outcome⟩
  | .error failure => ⟨x.warnings, .error failure⟩

instance : Monad Logged where
  pure := pure
  bind := bind

/-- Raise warnings before a result. -/
def after (warnings : List Warning) (a : α) : Logged α := ⟨warnings, .ok a⟩

/-! ## Laws -/

theorem bind_ok {x : Logged α} {a : α} (h_ok : x.outcome = .ok a) (f : α → Logged β) :
    x.bind f = ⟨x.warnings ++ (f a).warnings, (f a).outcome⟩ := by
  simp [bind, h_ok]

theorem bind_error {x : Logged α} {failure : Failure} (h_error : x.outcome = .error failure)
    (f : α → Logged β) : x.bind f = ⟨x.warnings, .error failure⟩ := by
  simp [bind, h_error]

@[simp] theorem pure_bind (a : α) (f : α → Logged β) : (Logged.pure a).bind f = f a := by
  simp [bind, Logged.pure]

theorem bind_assoc (x : Logged α) (f : α → Logged β) (g : β → Logged γ) :
    (x.bind f).bind g = x.bind fun a => (f a).bind g := by
  obtain ⟨warnings, outcome⟩ := x
  cases outcome with
  | error failure => rfl
  | ok a =>
    cases h_second : (f a).outcome with
    | error failure => simp [bind, h_second]
    | ok b => simp [bind, h_second, List.append_assoc]

theorem outcome_bind_eq_ok_iff {x : Logged α} {f : α → Logged β} {b : β} :
    (x.bind f).outcome = .ok b ↔ ∃ a, x.outcome = .ok a ∧ (f a).outcome = .ok b := by
  cases h : x.outcome with
  | error failure => simp [bind, h]
  | ok a => simp [bind, h]

/-! ## Folds -/

/-- Take the items of a list in turn into a state, until one fails. -/
def foldl (step : β → α → Logged β) (state : β) : List α → Logged β
  | [] => Logged.pure state
  | a :: rest => (step state a).bind fun next => foldl step next rest

@[simp] theorem foldl_nil (step : β → α → Logged β) (state : β) :
    foldl step state [] = Logged.pure state := rfl

@[simp] theorem foldl_cons (step : β → α → Logged β) (state : β) (a : α) (rest : List α) :
    foldl step state (a :: rest) = (step state a).bind fun next => foldl step next rest := rfl

/-- A fold over two lists is a fold over the second from where the first one ends. -/
theorem foldl_append (step : β → α → Logged β) (state : β) (first second : List α) :
    foldl step state (first ++ second) =
      (foldl step state first).bind fun next => foldl step next second := by
  induction first generalizing state with
  | nil => simp
  | cons a rest ih => simp [ih, bind_assoc]

/-- What every step that succeeds preserves holds of the end of a fold that succeeds. -/
theorem outcome_foldl_induction {P : β → Prop} {step : β → α → Logged β}
    (h_step : ∀ state a next, P state → (step state a).outcome = .ok next → P next)
    {items : List α} {state final : β} (h_start : P state)
    (finished : (foldl step state items).outcome = .ok final) : P final := by
  induction items generalizing state with
  | nil =>
    rw [foldl_nil, pure, Except.ok.injEq] at finished
    exact finished ▸ h_start
  | cons a rest ih =>
    rw [foldl_cons, outcome_bind_eq_ok_iff] at finished
    obtain ⟨next, h_first, h_rest⟩ := finished
    exact ih (h_step state a next h_start h_first) h_rest

end Logged

end ResourceGraph
