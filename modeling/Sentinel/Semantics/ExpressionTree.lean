import Mathlib.Data.List.Basic

/-!
# Expressions whose operators may raise

Operands are evaluated before their operator is applied, and all of them are: no
operator decides whether an operand is evaluated. So evaluation of an expression
whose variables are bound raises exactly if one of its operators raises on the
values of its operands (`evaluate_ok_iff`).
-/

namespace Sentinel.Semantics

inductive ExpressionTree (Value Error : Type) where
  | constant (value : Value)
  | named (name : String)
  | unary (operator : Value → Except Error Value) (operand : ExpressionTree Value Error)
  | binary (operator : Value → Value → Except Error Value)
      (left right : ExpressionTree Value Error)

namespace ExpressionTree

variable {Value Error : Type}

/-- The variables of an expression. -/
def names : ExpressionTree Value Error → List String
  | constant _ => []
  | named name => [name]
  | unary _ operand => operand.names
  | binary _ left right => left.names ++ right.names

/-- The value under a binding of variables; `unbound` is the error about a name that has
none. -/
def evaluate (unbound : String → Error) (binding : String → Option Value) :
    ExpressionTree Value Error → Except Error Value
  | constant value => .ok value
  | named name =>
      match binding name with
      | some value => .ok value
      | none => .error (unbound name)
  | unary operator operand => do operator (← operand.evaluate unbound binding)
  | binary operator left right => do
      operator (← left.evaluate unbound binding) (← right.evaluate unbound binding)

/-- An operator of the expression raises on the values of its operands. -/
def OperatorRaises (unbound : String → Error) (binding : String → Option Value) :
    ExpressionTree Value Error → Prop
  | constant _ => False
  | named _ => False
  | unary operator operand => operand.OperatorRaises unbound binding ∨
      ∃ value problem, operand.evaluate unbound binding = .ok value ∧
        operator value = .error problem
  | binary operator left right => left.OperatorRaises unbound binding ∨
      right.OperatorRaises unbound binding ∨
      ∃ one other problem, left.evaluate unbound binding = .ok one ∧
        right.evaluate unbound binding = .ok other ∧ operator one other = .error problem

variable {unbound : String → Error} {binding : String → Option Value}

/-- An operator is applied to what its operand gives. -/
theorem evaluate_unary (operator : Value → Except Error Value)
    (operand : ExpressionTree Value Error) :
    (unary operator operand).evaluate unbound binding =
      (operand.evaluate unbound binding).bind operator := rfl

/-- The left operand is evaluated before the right one. -/
theorem evaluate_binary (operator : Value → Value → Except Error Value)
    (left right : ExpressionTree Value Error) :
    (binary operator left right).evaluate unbound binding =
      (left.evaluate unbound binding).bind fun one =>
        (right.evaluate unbound binding).bind (operator one) := rfl

/-- A result is a value or an error. -/
theorem ok_iff_not_error (result : Except Error Value) :
    (∃ value, result = .ok value) ↔ ¬ ∃ problem, result = .error problem := by
  cases result with
  | ok value => simp
  | error problem => simp

/-- Who evaluates exactly when nothing raises has raised on an error. -/
theorem raises_of_error {result : Except Error Value} {problem : Error} {raises : Prop}
    (exactly : (∃ value, result = .ok value) ↔ ¬ raises) (failed : result = .error problem) :
    raises := by
  by_contra fine
  obtain ⟨value, ok⟩ := exactly.mpr fine
  rw [failed] at ok
  cases ok

/-- Bound variables evaluate, and so does all that is made of them by operators that do
not raise. -/
theorem evaluate_ok_iff (tree : ExpressionTree Value Error)
    (bound : ∀ name ∈ tree.names, (binding name).isSome) :
    (∃ value, tree.evaluate unbound binding = .ok value) ↔
      ¬ tree.OperatorRaises unbound binding := by
  induction tree with
  | constant value => exact ⟨fun _ => id, fun _ => ⟨value, rfl⟩⟩
  | named name =>
      obtain ⟨value, found⟩ := Option.isSome_iff_exists.mp (bound name List.mem_cons_self)
      refine ⟨fun _ => id, fun _ => ⟨value, ?_⟩⟩
      rw [evaluate, found]
  | unary operator operand ih =>
      have inner := ih bound
      rw [evaluate_unary, OperatorRaises]
      cases evaluated : operand.evaluate unbound binding with
      | error problem =>
          have raises := raises_of_error inner evaluated
          simp [Except.bind, raises]
      | ok value =>
          have fine : ¬ operand.OperatorRaises unbound binding := inner.mp ⟨value, evaluated⟩
          rw [Except.bind, ok_iff_not_error]
          simp [fine]
  | binary operator left right leftIH rightIH =>
      have inner := leftIH fun name member => bound name (List.mem_append_left _ member)
      have outer := rightIH fun name member => bound name (List.mem_append_right _ member)
      rw [evaluate_binary, OperatorRaises]
      cases evaluated : left.evaluate unbound binding with
      | error problem =>
          have raises := raises_of_error inner evaluated
          simp [Except.bind, raises]
      | ok one =>
          have fine : ¬ left.OperatorRaises unbound binding := inner.mp ⟨one, evaluated⟩
          cases second : right.evaluate unbound binding with
          | error problem =>
              have raises := raises_of_error outer second
              simp [Except.bind, raises]
          | ok other =>
              have alsoFine : ¬ right.OperatorRaises unbound binding := outer.mp ⟨other, second⟩
              simp only [Except.bind]
              rw [ok_iff_not_error]
              simp [fine, alsoFine]

end ExpressionTree
end Sentinel.Semantics
