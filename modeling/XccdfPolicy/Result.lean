import Mathlib.Tactic.IntervalCases

/-!
# Result codes and the three-valued reduction

The policy layer passes results around as plain C `int`s: an engine callback may return any
value, `-1` makes the evaluation give up, and `0` stands for "no result yet". This module
fixes the codes of `xccdf_test_result_type_t`, the two operator tables of `_resolve_operation`
exactly as `xccdf_policy.c` writes them, and `_resolve_negate`. `_resolve_operation` bounds its
codes from above only, and C reads a negative code across the rows of the table or before it.

The comment above `_resolve_operation` documents the NISTIR-7275r4 tables;
`documentedOperation` states them as written there. The main results are

* `resolveOperation_eq_documented`: on the eight result codes the code's tables are the
  documented ones with the Error and Unknown rows exchanged;
  hence AND is not commutative: `AND(E,P) = U` but `AND(P,E) = E`;
* `resolveNegate_resolveNegate`: negation is an involution that moves only Pass and Fail;
* `resolveNegate_resolveOperation`: for all that, the two tables are De Morgan duals on
  non-negative codes: negating an AND of two codes is the OR of their negations, and the other
  way.
-/

namespace Xccdf

/-- `xccdf_test_result_type_t`, in the order of its C enumerators. -/
inductive XccdfTestResultType where
  | pass | fail | error | unknown | notApplicable | notChecked | notSelected
  | informational | fixed
deriving DecidableEq, Repr

/-- The C value of each enumerator (`XCCDF_RESULT_PASS = 1`, ...). -/
def XccdfTestResultType.toInt : XccdfTestResultType → Int
  | .pass => 1
  | .fail => 2
  | .error => 3
  | .unknown => 4
  | .notApplicable => 5
  | .notChecked => 6
  | .notSelected => 7
  | .informational => 8
  | .fixed => 9

/-- `xccdf_bool_operator_t`, the operator of a complex check. -/
inductive XccdfBoolOperator where
  | and | or
deriving DecidableEq, Repr

/-! ## `_resolve_operation` -/

/-- `RESULT_TABLE_AND[9][9]` as written in `_resolve_operation`; row and column 0 are unused. -/
def resultTableAnd : List (List Int) :=
  [[0, 0, 0, 0, 0, 0, 0, 0, 0],
   [0, 1, 2, 3, 4, 1, 1, 1, 1],
   [0, 2, 2, 2, 2, 2, 2, 2, 2],
   [0, 4, 2, 4, 4, 4, 4, 4, 4],
   [0, 3, 2, 3, 4, 3, 3, 3, 3],
   [0, 1, 2, 3, 4, 5, 5, 5, 5],
   [0, 1, 2, 3, 4, 5, 6, 6, 6],
   [0, 1, 2, 3, 4, 5, 6, 7, 7],
   [0, 1, 2, 3, 4, 5, 6, 7, 8]]

/-- `RESULT_TABLE_OR[9][9]` as written in `_resolve_operation`. -/
def resultTableOr : List (List Int) :=
  [[0, 0, 0, 0, 0, 0, 0, 0, 0],
   [0, 1, 1, 1, 1, 1, 1, 1, 1],
   [0, 1, 2, 3, 4, 2, 2, 2, 2],
   [0, 1, 4, 4, 4, 4, 4, 4, 4],
   [0, 1, 3, 3, 4, 3, 3, 3, 3],
   [0, 1, 2, 3, 4, 5, 5, 5, 5],
   [0, 1, 2, 3, 4, 5, 6, 6, 6],
   [0, 1, 2, 3, 4, 5, 6, 7, 7],
   [0, 1, 2, 3, 4, 5, 6, 7, 8]]

/-- `RESULT_TABLE_AND` or `RESULT_TABLE_OR`. -/
def resultTable : XccdfBoolOperator → List (List Int)
  | .and => resultTableAnd
  | .or => resultTableOr

/-- `_resolve_operation(A, B, oper)`: `0` when either code is `0` or above
`XCCDF_RESULT_INFORMATIONAL`, else `RESULT_TABLE[A][B]`. No lower bound is checked, and C
reads that entry at the offset `9 * A + B` of the contiguous 9×9 table: `(6, -8)` reads
`[5][1]`. A negative offset reads before the table, the `int` that `before oper` gives at that
offset. -/
def resolveOperation (before : XccdfBoolOperator → Int → Int) (A B : Int)
    (oper : XccdfBoolOperator) : Int :=
  if A = 0 ∨ B = 0 ∨ 8 < A ∨ 8 < B then 0
  else if 9 * A + B < 0 then before oper (9 * A + B)
  else (resultTable oper).flatten.getD (9 * A + B).toNat 0

/-- A negative code is read across the rows: OR of NotChecked and `-8` is the entry of row
NotApplicable, column Pass. -/
example (before : XccdfBoolOperator → Int → Int) : resolveOperation before 6 (-8) .or = 1 := rfl

/-- `xccdf_test_result_resolve_and_operation(A, B)`, the exported AND of two results. -/
def xccdfTestResultResolveAndOperation (before : XccdfBoolOperator → Int → Int) (A B : Int) :
    Int :=
  resolveOperation before A B .and

/-- `_resolve_negate(value, check)` for a check whose negate flag is `negate`: Pass and Fail
swap, every other code is kept. -/
def resolveNegate (negate : Bool) (value : Int) : Int :=
  if negate then
    if value = XccdfTestResultType.pass.toInt then XccdfTestResultType.fail.toInt
    else if value = XccdfTestResultType.fail.toInt then XccdfTestResultType.pass.toInt
    else value
  else value

@[simp]
theorem resolveNegate_false (value : Int) : resolveNegate false value = value := rfl

/-- Negation leaves `-1` in place, so an aborting result survives it. -/
@[simp]
theorem resolveNegate_neg_one (negate : Bool) : resolveNegate negate (-1) = -1 := by
  cases negate <;> decide

/-- Negation produces the abort code only from the abort code. -/
theorem resolveNegate_eq_neg_one_iff (negate : Bool) (value : Int) :
    resolveNegate negate value = -1 ↔ value = -1 := by
  cases negate
  · rfl
  · simp only [resolveNegate, XccdfTestResultType.toInt, ↓reduceIte]
    split_ifs <;> simp <;> omega

/-- Negation leaves every code other than Pass and Fail unchanged. -/
theorem resolveNegate_of_ne (negate : Bool) {value : Int} (hp : value ≠ 1) (hf : value ≠ 2) :
    resolveNegate negate value = value := by
  cases negate <;> simp [resolveNegate, XccdfTestResultType.toInt, hp, hf]

/-- Negation keeps every lower bound up to Pass. -/
theorem le_resolveNegate (negate : Bool) {c value : Int} (hc : c ≤ 1) (h : c ≤ value) :
    c ≤ resolveNegate negate value := by
  cases negate
  · exact h
  · simp only [resolveNegate, XccdfTestResultType.toInt]
    split_ifs <;> omega

/-- Negating twice gives back the code. -/
theorem resolveNegate_resolveNegate (negate : Bool) (value : Int) :
    resolveNegate negate (resolveNegate negate value) = value := by
  cases negate
  · rfl
  · by_cases hp : value = 1
    · subst hp; decide
    · by_cases hf : value = 2
      · subst hf; decide
      · rw [resolveNegate_of_ne true hp hf, resolveNegate_of_ne true hp hf]

/-- Negating under the flipped flag is negating once more. -/
theorem resolveNegate_not (negate : Bool) (value : Int) :
    resolveNegate (!negate) value = resolveNegate true (resolveNegate negate value) := by
  cases negate
  · rfl
  · exact (resolveNegate_resolveNegate true value).symm

theorem resolveNegate_not_resolveNegate (negate : Bool) (value : Int) :
    resolveNegate (!negate) (resolveNegate true value) = resolveNegate negate value := by
  cases negate <;> simp [resolveNegate_resolveNegate]

/-- Negation keeps "no result yet". -/
theorem resolveNegate_eq_zero_iff (negate : Bool) (value : Int) :
    resolveNegate negate value = 0 ↔ value = 0 := by
  cases negate
  · rfl
  · simp only [resolveNegate, XccdfTestResultType.toInt, ↓reduceIte]
    split_ifs <;> omega

theorem resolveOperation_of_guard (before : XccdfBoolOperator → Int → Int) {A B : Int}
    (oper : XccdfBoolOperator) (h : A = 0 ∨ B = 0 ∨ 8 < A ∨ 8 < B) :
    resolveOperation before A B oper = 0 :=
  if_pos h

/-- With both codes non-negative, `_resolve_operation` reads inside its table: what lies before
it does not matter. -/
theorem resolveOperation_before (before before' : XccdfBoolOperator → Int → Int) {A B : Int}
    (hA : 0 ≤ A) (hB : 0 ≤ B) (oper : XccdfBoolOperator) :
    resolveOperation before A B oper = resolveOperation before' A B oper := by
  unfold resolveOperation
  split_ifs <;> first | rfl | omega

/-- With both codes non-negative, `_resolve_operation` gives a code of its table, never `-1`. -/
theorem resolveOperation_nonneg (before : XccdfBoolOperator → Int → Int) {A B : Int}
    (hA : 0 ≤ A) (hB : 0 ≤ B) (oper : XccdfBoolOperator) :
    0 ≤ resolveOperation before A B oper := by
  have htable : ∀ x ∈ (resultTable oper).flatten, 0 ≤ x := by cases oper <;> decide
  unfold resolveOperation
  split_ifs
  · exact le_rfl
  · omega
  · rw [List.getD_eq_getElem?_getD]
    rcases hx : (resultTable oper).flatten[(9 * A + B).toNat]? with _ | x
    · exact le_rfl
    · exact htable x (List.getElem?_mem hx)

/-! ## The documented tables -/

/-- The rows and columns of the table in the comment above `_resolve_operation`: Pass, Fail,
Unknown, Error, and `N` for NotApplicable, NotChecked, NotSelected and Informational. -/
inductive ResultClass where
  | p | f | u | e | n
deriving DecidableEq, Repr

/-- The row or column of the documented table a result code falls in. -/
def resultClass (value : Int) : ResultClass :=
  if value = 1 then .p
  else if value = 2 then .f
  else if value = 3 then .e
  else if value = 4 then .u
  else .n

/-- The AND table of the comment above `_resolve_operation`, row by row. -/
def documentedAndTable : ResultClass → ResultClass → ResultClass
  | .p, .p => .p | .p, .f => .f | .p, .u => .u | .p, .e => .e | .p, .n => .p
  | .f, .p => .f | .f, .f => .f | .f, .u => .f | .f, .e => .f | .f, .n => .f
  | .u, .p => .u | .u, .f => .f | .u, .u => .u | .u, .e => .u | .u, .n => .u
  | .e, .p => .e | .e, .f => .f | .e, .u => .u | .e, .e => .e | .e, .n => .e
  | .n, .p => .p | .n, .f => .f | .n, .u => .u | .n, .e => .e | .n, .n => .n

/-- The OR table of the comment above `_resolve_operation`, row by row. -/
def documentedOrTable : ResultClass → ResultClass → ResultClass
  | .p, .p => .p | .p, .f => .p | .p, .u => .p | .p, .e => .p | .p, .n => .p
  | .f, .p => .p | .f, .f => .f | .f, .u => .u | .f, .e => .e | .f, .n => .f
  | .u, .p => .p | .u, .f => .u | .u, .u => .u | .u, .e => .u | .u, .n => .u
  | .e, .p => .p | .e, .f => .e | .e, .u => .u | .e, .e => .e | .e, .n => .e
  | .n, .p => .p | .n, .f => .f | .n, .u => .u | .n, .e => .e | .n, .n => .n

/-- The documented operation on two result codes of `1 ..= 8`: the table entry, where an `N`
entry (two `N` codes) is the lower-ranked of the two. -/
def documentedOperation (A B : Int) (oper : XccdfBoolOperator) : Int :=
  let table := match oper with
    | .and => documentedAndTable
    | .or => documentedOrTable
  match table (resultClass A) (resultClass B) with
  | .p => 1
  | .f => 2
  | .e => 3
  | .u => 4
  | .n => min A B

/-- Exchanges the Error and Unknown codes. -/
def swapErrorUnknown (value : Int) : Int :=
  if value = 3 then 4 else if value = 4 then 3 else value

/-- On the eight result codes, `_resolve_operation` is the documented table with the Error
and Unknown rows exchanged: `RESULT_TABLE_AND` and `RESULT_TABLE_OR` list the rows in the
comment's order `P F U E` under the labels `P F E U`. -/
theorem resolveOperation_eq_documented (before : XccdfBoolOperator → Int → Int) (A B : Int)
    (oper : XccdfBoolOperator) (hA : 1 ≤ A ∧ A ≤ 8) (hB : 1 ≤ B ∧ B ≤ 8) :
    resolveOperation before A B oper = documentedOperation (swapErrorUnknown A) B oper := by
  obtain ⟨hA1, hA8⟩ := hA
  obtain ⟨hB1, hB8⟩ := hB
  interval_cases A <;> interval_cases B <;> cases oper <;> rfl

/-- AND of Error then Pass is Unknown in the code, Error in the documented table. -/
example (before : XccdfBoolOperator → Int → Int) : resolveOperation before 3 1 .and = 4 ∧
    resolveOperation before 1 3 .and = 3 ∧ documentedOperation 3 1 .and = 3 :=
  ⟨rfl, rfl, rfl⟩

/-! ## De Morgan's laws -/

/-- The other operator. -/
def XccdfBoolOperator.dual : XccdfBoolOperator → XccdfBoolOperator
  | .and => .or
  | .or => .and

/-- On non-negative codes the code's tables are De Morgan duals: the exchanged Error and
Unknown rows are exchanged in both, and a code the guard of `_resolve_operation` catches is
one negation keeps. -/
theorem resolveNegate_resolveOperation (before : XccdfBoolOperator → Int → Int) {A B : Int}
    (hA : 0 ≤ A) (hB : 0 ≤ B) (oper : XccdfBoolOperator) :
    resolveNegate true (resolveOperation before A B oper) =
      resolveOperation before (resolveNegate true A) (resolveNegate true B) oper.dual := by
  by_cases h : (1 ≤ A ∧ A ≤ 8) ∧ (1 ≤ B ∧ B ≤ 8)
  · obtain ⟨⟨hA1, hA8⟩, hB1, hB8⟩ := h
    interval_cases A <;> interval_cases B <;> cases oper <;> rfl
  · rw [resolveOperation_of_guard before oper (by omega)]
    rcases not_and_or.mp h with hA' | hB'
    · have hn : resolveNegate true A = A := resolveNegate_of_ne true (by omega) (by omega)
      rw [resolveOperation_of_guard before _ (by rw [hn]; omega)]
      rfl
    · have hn : resolveNegate true B = B := resolveNegate_of_ne true (by omega) (by omega)
      rw [resolveOperation_of_guard before _ (by rw [hn]; omega)]
      rfl

end Xccdf
