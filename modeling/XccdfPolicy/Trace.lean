import XccdfPolicy.TestResult

/-!
# The blocks of an evaluation's trace

Whatever the callbacks answer, the trace of `xccdf_policy_evaluate` is a sequence of blocks,
one per RuleResult it adds, possibly followed by the beginning of one more block where the
evaluation stopped. A block of a Rule is its start hook calls, then its checks (the Rule's
applicability, names queries and engine calls), then the append of a RuleResult made from the
Rule and the output hook calls on that RuleResult. A multi-check Rule gives one block per
definition name: the start hooks fire again before each name after the first.

Each layer of `_xccdf_policy_rule_evaluate` is stated from an open head: the events of the
current block so far (`RuleSteps`). A callback loop or a check evaluation extends the head,
`_xccdf_policy_report_rule_result` closes it, and a Rule that answers `0` leaves no block open,
so the walk over the selects concatenates the blocks of its Rules.

A block's head also backs its RuleResult (`Backed`): a Pass or Fail RuleResult follows an
engine call of its own head that answered Pass, Fail or a code below `-1`. The tables of
`_resolve_operation` and `_resolve_negate` make a Pass or Fail only from a Pass or Fail, and
`_resolve_operation` reads across the rows of its table, or before it, only for a negative
code (`yieldsVerdict_resolveOperation`); so a check evaluation answers Pass or Fail only after
an engine answered such a code (`checkEvaluate_yieldsVerdict`). The one other source is the
uninitialised `ret` of `_xccdf_policy_rule_evaluate`, reported for a simple check without
content-ref.

* `ruleEvaluate_ruleSteps`: a Rule's evaluation is whole blocks of the Rule and at most one
  open head, none when it answers `0`.
* `ruleEvaluate_blocks`: joined with `ruleEvaluate_runExtends`, every block of a Rule has a
  RuleResult of the Rule (`RuleResultOfRule`) and only engine calls its chosen check asks.
* `evaluate_blocks`: the trace of an evaluation is whole blocks of Rules of the Benchmark and
  at most one open head of another, and the RuleResults of the run and of the TestResult are
  those of the blocks, in order. No engine call stands in the block of another Rule than the
  one whose check asks it, and no Pass or Fail is reported without an engine's Pass, Fail or
  code below `-1` in its block.
-/

namespace Xccdf

variable {σ : Type}

/-! ## Pass and Fail answers -/

/-- Pass or Fail: a verdict on the target. -/
def isVerdict (result : Int) : Bool :=
  result = XccdfTestResultType.pass.toInt ∨ result = XccdfTestResultType.fail.toInt

/-- A code from which `_resolve_operation` and `_resolve_negate` can make a Pass or Fail: Pass
or Fail itself, or a code below `-1`, which `_resolve_operation` reads across the rows of its
table or before it. -/
def yieldsVerdict (result : Int) : Bool :=
  isVerdict result || decide (result < -1)

/-- An engine call whose answer yields a verdict. -/
def XccdfEvent.yieldsVerdict : XccdfEvent → Bool
  | .call _ (.eval ..) ret => Xccdf.yieldsVerdict ret
  | _ => false

theorem isVerdict_resolveNegate (negate : Bool) (value : Int) :
    isVerdict (resolveNegate negate value) = isVerdict value := by
  by_cases hp : value = 1
  · subst hp; cases negate <;> decide
  · by_cases hf : value = 2
    · subst hf; cases negate <;> decide
    · rw [resolveNegate_of_ne negate hp hf]

theorem yieldsVerdict_resolveNegate (negate : Bool) (value : Int) :
    yieldsVerdict (resolveNegate negate value) = yieldsVerdict value := by
  by_cases hp : value = 1
  · subst hp; cases negate <;> decide
  · by_cases hf : value = 2
    · subst hf; cases negate <;> decide
    · rw [resolveNegate_of_ne negate hp hf]

theorem yieldsVerdict_of_isVerdict {result : Int} (h : isVerdict result = true) :
    yieldsVerdict result = true := by
  simp [yieldsVerdict, h]

/-- Both tables give Pass or Fail only from a Pass or a Fail, and a read outside them, which
may give any code, only from a negative code. -/
theorem yieldsVerdict_resolveOperation {before : XccdfBoolOperator → Int → Int} {A B : Int}
    {oper : XccdfBoolOperator}
    (h : yieldsVerdict (resolveOperation before A B oper) = true ∨
      resolveOperation before A B oper = -1) :
    (yieldsVerdict A = true ∨ A = -1) ∨ (yieldsVerdict B = true ∨ B = -1) := by
  have hneg : ∀ x : Int, x < 0 → yieldsVerdict x = true ∨ x = -1 := fun x hx => by
    by_cases hx' : x = -1
    · exact .inr hx'
    · exact .inl (by simp [yieldsVerdict]; omega)
  by_cases hA : A < 0
  · exact .inl (hneg A hA)
  · by_cases hB : B < 0
    · exact .inr (hneg B hB)
    · rw [resolveOperation_before before (fun _ _ => 0) (by omega) (by omega)] at h
      by_cases hr : (1 ≤ A ∧ A ≤ 8) ∧ (1 ≤ B ∧ B ≤ 8)
      · obtain ⟨⟨hA1, hA8⟩, hB1, hB8⟩ := hr
        revert h
        interval_cases A <;> interval_cases B <;> cases oper <;> decide
      · rw [resolveOperation_of_guard _ oper (by omega)] at h
        exact absurd h (by decide)

/-- `s'` continues `s` by events among which an engine answers a code that yields a verdict. -/
def YieldsVerdict (s s' : XccdfRun σ) : Prop :=
  ∃ events, s'.trace = s.trace ++ events ∧ ∃ e ∈ events, e.yieldsVerdict

namespace YieldsVerdict

variable {s₁ s₂ s₃ : XccdfRun σ}

theorem extend (h : YieldsVerdict s₁ s₂) (h' : s₂.trace <+: s₃.trace) :
    YieldsVerdict s₁ s₃ := by
  obtain ⟨events, htrace, e, he, hv⟩ := h
  obtain ⟨rest, hrest⟩ := h'
  exact ⟨events ++ rest, by rw [← hrest, htrace, List.append_assoc], e,
    List.mem_append_left _ he, hv⟩

theorem extend_left (h' : s₁.trace <+: s₂.trace) (h : YieldsVerdict s₂ s₃) :
    YieldsVerdict s₁ s₃ := by
  obtain ⟨events, htrace, e, he, hv⟩ := h
  obtain ⟨rest, hrest⟩ := h'
  exact ⟨rest ++ events, by rw [htrace, ← hrest, List.append_assoc], e,
    List.mem_append_right _ he, hv⟩

end YieldsVerdict

/-- An engine loop answers a code that yields a verdict only with the answer of its last
call. -/
theorem callUntil_yieldsVerdict (pass : Int) (hpass : yieldsVerdict pass = false)
    (ruleId content : Option String) (href : String) (bindings : List XccdfValueBinding) :
    ∀ (cbs : List (XccdfCallback σ)) (s : XccdfRun σ),
      yieldsVerdict (callUntil pass (.eval ruleId content href bindings) cbs s).1 = true →
        YieldsVerdict s (callUntil pass (.eval ruleId content href bindings) cbs s).2
  | [], _, h => by simp [callUntil, hpass] at h
  | cb :: cbs, s, h => by
    simp only [callUntil] at h ⊢
    split at h
    · rw [if_pos ‹_›]
      exact (callUntil_yieldsVerdict pass hpass ruleId content href bindings cbs _ h).extend_left
        ⟨_, rfl⟩
    · rw [if_neg ‹_›]
      exact ⟨_, rfl, _, List.mem_singleton_self _, h⟩

theorem evaluateCb_yieldsVerdict (callbacks : List (XccdfCallback σ)) (sysname : String)
    (content : Option String) (href : String) (ruleId : Option String)
    (bindings : List XccdfValueBinding) (s : XccdfRun σ)
    (h : yieldsVerdict (xccdfPolicyEvaluateCb callbacks sysname content href ruleId bindings s).1) :
    YieldsVerdict s (xccdfPolicyEvaluateCb callbacks sysname content href ruleId bindings s).2 :=
  callUntil_yieldsVerdict _ (by decide) _ _ _ _ _ s h

section CheckEvaluate

variable (model : XccdfPolicyModel σ) (policy : XccdfPolicy) (env : XccdfEnvironment)

/-- The content-ref loop answers a code that yields a verdict only with an engine's answer, or
with the `ret` it was entered with when it has no content-ref. -/
theorem checkContentRefsLoop_yieldsVerdict (system : String) (ruleId : Option String)
    (bindings : List XccdfValueBinding) :
    ∀ (contents : List XccdfCheckContentRef) (ret : Int) (s : XccdfRun σ),
      yieldsVerdict (checkContentRefsLoop model system ruleId bindings contents ret s).1 = true →
        yieldsVerdict ret = true ∨
          YieldsVerdict s (checkContentRefsLoop model system ruleId bindings contents ret s).2.2
  | [], _, _, h => .inl h
  | content :: contents, _, s, h => by
    simp only [checkContentRefsLoop] at h ⊢
    split at h
    · rw [if_pos ‹_›]
      exact .inr (evaluateCb_yieldsVerdict _ _ _ _ _ _ s h)
    · rename_i hnc
      rw [if_neg hnc]
      refine .inr (((checkContentRefsLoop_yieldsVerdict system ruleId bindings contents _ _
        h).resolve_left (by rw [not_not.mp hnc]; decide)).extend_left ?_)
      exact (evaluateCb_engineSteps model.callbacks system _ _ _ _ s).extends_trace

mutual
/-- Whatever the engines answer, a check evaluation answers a code that yields a verdict only
after an engine answered one. -/
theorem checkEvaluate_yieldsVerdict (ruleId : Option String) :
    ∀ (check : XccdfCheck) (s : XccdfRun σ),
      yieldsVerdict (xccdfPolicyCheckEvaluate model policy env ruleId check s).1 = true →
        YieldsVerdict s (xccdfPolicyCheckEvaluate model policy env ruleId check s).2.2
  | .complex oper negate children, s, h => by
    have hchildren := evaluateChildren_yieldsVerdict ruleId oper children 0 s
    simp only [xccdfPolicyCheckEvaluate] at h ⊢
    split at h
    · dsimp only at h
      exact absurd h (by decide)
    · rw [if_neg ‹_›]
      rw [yieldsVerdict_resolveNegate] at h
      exact (hchildren h).resolve_left (by decide)
  | .simple system selector negate multicheck contents exports, s, h => by
    simp only [xccdfPolicyCheckEvaluate] at h ⊢
    split at h
    · dsimp only at h
      exact absurd h (by decide)
    · rw [yieldsVerdict_resolveNegate] at h
      exact (checkContentRefsLoop_yieldsVerdict model _ _ _ contents 0 s h).resolve_left
        (by decide)

/-- The child loop answers a code that yields a verdict only from an accumulator that yields
one or is `-1`, or after an engine answered one. -/
theorem evaluateChildren_yieldsVerdict (ruleId : Option String) (oper : XccdfBoolOperator) :
    ∀ (children : List XccdfCheck) (ret : Int) (s : XccdfRun σ),
      yieldsVerdict (XccdfCheck.evaluateChildren model policy env ruleId oper children ret s).1 =
          true →
        (yieldsVerdict ret = true ∨ ret = -1) ∨
          YieldsVerdict s
            (XccdfCheck.evaluateChildren model policy env ruleId oper children ret s).2.2
  | [], _, _, h => .inl (.inl h)
  | child :: children, ret, s, h => by
    have hchild := checkEvaluate_yieldsVerdict ruleId child s
    have hprefix := (checkEvaluate_onlyEngineCalls model policy env ruleId child s).extends_trace
    simp only [XccdfCheck.evaluateChildren] at h ⊢
    generalize xccdfPolicyCheckEvaluate model policy env ruleId child s = r at hchild hprefix h ⊢
    split at h
    · dsimp only at h
      exact absurd h (by decide)
    · rename_i habort
      rw [if_neg habort]
      have htail := (evaluateChildren_onlyEngineCalls model policy env ruleId oper children
        (if ret = 0 then r.1 else resolveOperation env.resultTableBefore ret r.1 oper)
        r.2.2).extends_trace
      have hchild' : (yieldsVerdict r.1 = true ∨ r.1 = -1) → YieldsVerdict s r.2.2 :=
        fun hv => hchild (hv.resolve_right habort)
      rcases evaluateChildren_yieldsVerdict ruleId oper children _ r.2.2 h with hv | hv
      · split at hv
        · exact .inr ((hchild' hv).extend htail)
        · rcases yieldsVerdict_resolveOperation hv with hret | hv'
          · exact .inl hret
          · exact .inr ((hchild' hv').extend htail)
      · exact .inr (hv.extend_left hprefix)
end

end CheckEvaluate

/-- A Pass or Fail `result` is backed by an engine call among `events` that answered a code
that yields a verdict (Pass, Fail, or a code below `-1`), or else the uninitialised `ret` of
`_xccdf_policy_rule_evaluate` is itself Pass or Fail. -/
def Backed (env : XccdfEnvironment) (result : Int) (events : List XccdfEvent) : Prop :=
  isVerdict result = true →
    (∃ e ∈ events, e.yieldsVerdict = true) ∨ isVerdict env.uninitialisedRet = true

namespace Backed

variable {env : XccdfEnvironment} {result : Int} {head events : List XccdfEvent}

theorem of_not (h : isVerdict result = false) : Backed env result events :=
  fun h' => absurd (h.symm.trans h') (by decide)

theorem append (h : Backed env result head) : Backed env result (head ++ events) :=
  fun hv => (h hv).imp_left fun ⟨e, he, hve⟩ => ⟨e, List.mem_append_left _ he, hve⟩

/-- The answer of engine calls that answer a code that yields a verdict only after an engine
did. -/
theorem of_yieldsVerdict {s s' : XccdfRun σ} (htrace : s'.trace = s.trace ++ events)
    (h : yieldsVerdict result = true → YieldsVerdict s s') : Backed env result (head ++ events) :=
  fun hv => by
    obtain ⟨events', htrace', e, he, hve⟩ := h (yieldsVerdict_of_isVerdict hv)
    obtain rfl : events' = events := List.append_cancel_left (htrace'.symm.trans htrace)
    exact .inl ⟨e, List.mem_append_right _ he, hve⟩

theorem resolveNegate {negate : Bool} (h : Backed env result events) :
    Backed env (resolveNegate negate result) events := by
  rwa [Backed, isVerdict_resolveNegate]

end Backed

/-! ## Blocks -/

/-- A start hook call on `rule`. -/
def XccdfEvent.StartsRule (rule : XccdfRule) : XccdfEvent → Prop
  | .call system (.start r) _ => system = startSystem ∧ r = rule
  | _ => False

/-- An event of the checks of `rule`: its applicability, a names query or an engine call. -/
def XccdfEvent.ChecksRule (rule : XccdfRule) : XccdfEvent → Prop
  | .applicability id => id = rule.id
  | .query .. => True
  | .call _ (.eval ..) _ => True
  | _ => False

/-- An output hook call on `ruleResult`. -/
def XccdfEvent.OutputsResult (ruleResult : XccdfRuleResult) : XccdfEvent → Prop
  | .call system (.output r) _ => system = outputSystem ∧ r = ruleResult
  | _ => False

/-- The head of a block of `rule`: start hook calls on the Rule, then its checks. -/
def BlockHead (rule : XccdfRule) (events : List XccdfEvent) : Prop :=
  ∃ starts checks, events = starts ++ checks ∧ (∀ e ∈ starts, e.StartsRule rule) ∧
    ∀ e ∈ checks, e.ChecksRule rule

/-- A block of `rule`: a head that backs the RuleResult, the append of a RuleResult made from
the Rule, and the output hook calls on that RuleResult. -/
def Block (env : XccdfEnvironment) (rule : XccdfRule) (ruleResult : XccdfRuleResult)
    (events : List XccdfEvent) : Prop :=
  ruleResult.IsOf rule ∧ ∃ head outputs, events = head ++ .append ruleResult :: outputs ∧
    BlockHead rule head ∧ Backed env ruleResult.result head ∧
    ∀ e ∈ outputs, e.OutputsResult ruleResult

/-- `events` are whole blocks of `rule`, whose RuleResults are `added`, followed by the head of
one more block; when `ret` is `0`, no block is left open. -/
def RuleBlocks (env : XccdfEnvironment) (rule : XccdfRule) (ret : Int)
    (events : List XccdfEvent) (added : List XccdfRuleResult) : Prop :=
  ∃ blocks : List (XccdfRuleResult × List XccdfEvent), ∃ rest,
    events = blocks.flatMap (·.2) ++ rest ∧ (∀ b ∈ blocks, Block env rule b.1 b.2) ∧
      BlockHead rule rest ∧ added = blocks.map (·.1) ∧ (ret = 0 → rest = [])

/-- From a run whose last events `head` are the open head of a block of `rule`, `s'` continues
`s` with events that make, after `head`, `RuleBlocks rule ret`, and adds their RuleResults. -/
def RuleSteps (env : XccdfEnvironment) (rule : XccdfRule) (ret : Int) (head : List XccdfEvent)
    (s s' : XccdfRun σ) : Prop :=
  ∃ events added, s'.trace = s.trace ++ events ∧ s'.ruleResults = s.ruleResults ++ added ∧
    RuleBlocks env rule ret (head ++ events) added

/-- The engine calls among `events` are all asked by the check chosen for the Rule `p.1` below
the Groups `p.2` (`RuleCallsEngine`). -/
def CallsOfRule (model : XccdfPolicyModel σ) (policy : XccdfPolicy) (env : XccdfEnvironment)
    (p : XccdfRule × List XccdfGroup) (events : List XccdfEvent) : Prop :=
  ∀ e ∈ events, ∀ call ∈ e.engineCall, RuleCallsEngine model policy env p.1 p.2 call

theorem BlockHead.nil (rule : XccdfRule) : BlockHead rule [] :=
  ⟨[], [], rfl, by simp, by simp⟩

theorem BlockHead.of_starts {rule : XccdfRule} {events : List XccdfEvent}
    (h : ∀ e ∈ events, e.StartsRule rule) : BlockHead rule events :=
  ⟨events, [], by simp, h, by simp⟩

theorem BlockHead.append_checks {rule : XccdfRule} {head events : List XccdfEvent}
    (hhead : BlockHead rule head) (h : ∀ e ∈ events, e.ChecksRule rule) :
    BlockHead rule (head ++ events) := by
  obtain ⟨starts, checks, rfl, hstarts, hchecks⟩ := hhead
  exact ⟨starts, checks ++ events, by simp, hstarts, List.forall_mem_append.2 ⟨hchecks, h⟩⟩

theorem XccdfEvent.checksRule_of_isEval {rule : XccdfRule} :
    ∀ {e : XccdfEvent}, e.isEval → e.ChecksRule rule
  | .call _ (.eval ..) _, _ => trivial

/-- The start hooks on `rule` add start calls on it and no RuleResult. -/
theorem reportCb_start_events (callbacks : List (XccdfCallback σ)) (rule : XccdfRule)
    (s : XccdfRun σ) :
    (xccdfPolicyReportCb callbacks startSystem (.start rule) s).2.ruleResults = s.ruleResults ∧
      ∃ events, (xccdfPolicyReportCb callbacks startSystem (.start rule) s).2.trace =
        s.trace ++ events ∧ ∀ e ∈ events, e.StartsRule rule := by
  obtain ⟨hrr, events, htrace, hcalls, -⟩ := reportCb_spec callbacks startSystem (.start rule) s
  refine ⟨hrr, events, htrace, fun e he => ?_⟩
  obtain ⟨ret, rfl⟩ := hcalls e he
  exact ⟨rfl, rfl⟩

namespace RuleSteps

variable {env : XccdfEnvironment} {rule : XccdfRule} {ret : Int} {head events : List XccdfEvent}
  {s₁ s₂ s₃ : XccdfRun σ}

/-- Events that add no RuleResult extend the open head. -/
theorem cons_head (h : RuleSteps env rule ret (head ++ events) s₂ s₃)
    (htrace : s₂.trace = s₁.trace ++ events) (hrr : s₂.ruleResults = s₁.ruleResults) :
    RuleSteps env rule ret head s₁ s₃ := by
  obtain ⟨events', added, htrace', hrr', hblocks⟩ := h
  refine ⟨events ++ events', added, by rw [htrace', htrace, List.append_assoc],
    by rw [hrr', hrr], ?_⟩
  rwa [← List.append_assoc]

/-- The run stops with the head open. -/
theorem stop (hhead : BlockHead rule head) (hret : ret ≠ 0) (s : XccdfRun σ) :
    RuleSteps env rule ret head s s :=
  ⟨[], [], by simp, by simp, [], head, by simp, by simp, hhead, rfl, fun h => absurd h hret⟩

/-- Steps that leave no block open, then steps from a new head. -/
theorem trans (h₁ : RuleSteps env rule 0 head s₁ s₂) (h₂ : RuleSteps env rule ret [] s₂ s₃) :
    RuleSteps env rule ret head s₁ s₃ := by
  obtain ⟨events₁, added₁, htrace₁, hrr₁, blocks₁, rest₁, hev₁, hb₁, -, ha₁, hrest₁⟩ := h₁
  obtain ⟨events₂, added₂, htrace₂, hrr₂, blocks₂, rest₂, hev₂, hb₂, hh₂, ha₂, hrest₂⟩ := h₂
  obtain rfl := hrest₁ rfl
  refine ⟨events₁ ++ events₂, added₁ ++ added₂, by rw [htrace₂, htrace₁, List.append_assoc],
    by rw [hrr₂, hrr₁, List.append_assoc], blocks₁ ++ blocks₂, rest₂, ?_,
    List.forall_mem_append.2 ⟨hb₁, hb₂⟩, hh₂, by rw [ha₁, ha₂, List.map_append], hrest₂⟩
  rw [← List.append_assoc, hev₁, List.append_nil, List.flatMap_append, List.append_assoc]
  exact congrArg _ hev₂

end RuleSteps

/-- `_xccdf_policy_report_rule_result` closes the open head, which backs `res`, with its
RuleResult and the output hook calls on it, or, on `-1`, leaves it open. -/
theorem reportRuleResult_ruleSteps {env : XccdfEnvironment} (model : XccdfPolicyModel σ)
    (rule : XccdfRule) (check : Option XccdfCheck) (res : Int) (message : Option String)
    {head : List XccdfEvent} (hhead : BlockHead rule head) (hbacked : Backed env res head)
    (s : XccdfRun σ) :
    RuleSteps env rule (xccdfPolicyReportRuleResult model rule check res message s).1 head s
      (xccdfPolicyReportRuleResult model rule check res message s).2 := by
  by_cases hres : res = -1
  · simp only [xccdfPolicyReportRuleResult, hres, if_true]
    exact .stop hhead (by decide) s
  · obtain ⟨hrr, outputs, htrace, houtputs, -⟩ :=
      reportRuleResult_spec model rule check hres message s
    refine ⟨_, _, htrace, hrr, [(xccdfRuleResultNewFromRule rule check res message,
      head ++ .append (xccdfRuleResultNewFromRule rule check res message) :: outputs)], [],
      by simp, ?_, BlockHead.nil rule, rfl, fun _ => rfl⟩
    simp only [List.mem_singleton, forall_eq]
    refine ⟨XccdfRuleResult.isOf_newFromRule .., head, outputs, rfl, hhead, hbacked,
      fun e he => ?_⟩
    obtain ⟨ret, rfl⟩ := houtputs e he
    exact ⟨rfl, rfl⟩

/-! ## A Rule's evaluation -/

section RuleEvaluate

variable (model : XccdfPolicyModel σ) (policy : XccdfPolicy) (env : XccdfEnvironment)
  (rule : XccdfRule)

theorem ruleFinish_ruleSteps (check : XccdfCheck) (ret : Int) (message : Option String)
    {head : List XccdfEvent} (hhead : BlockHead rule head) (hbacked : Backed env ret head)
    (s : XccdfRun σ) :
    RuleSteps env rule (xccdfPolicyRuleFinish model rule check ret message s).1 head s
      (xccdfPolicyRuleFinish model rule check ret message s).2 :=
  reportRuleResult_ruleSteps model rule _ _ _ hhead hbacked.resolveNegate s

theorem ruleMultiCheckLoop_ruleSteps (check : XccdfCheck) (content : XccdfCheckContentRef) :
    ∀ (name : String) (names : List String) (s : XccdfRun σ) (head : List XccdfEvent),
      BlockHead rule head →
      RuleSteps env rule (ruleMultiCheckLoop model policy env rule check content name names s).1
        head s
        (ruleMultiCheckLoop model policy env rule check content name names s).2
  | name, names, s, head, hhead => by
    obtain ⟨hrr₁, events₁, htrace₁, hevals⟩ :=
      checkEvaluate_onlyEngineCalls model policy env none
        (check.injectContentRef content (some name)) s
    have hhead₁ := hhead.append_checks fun e he => XccdfEvent.checksRule_of_isEval (hevals e he)
    have hbacked : Backed env _ (head ++ events₁) :=
      Backed.of_yieldsVerdict htrace₁ (checkEvaluate_yieldsVerdict model policy env none _ s)
    unfold ruleMultiCheckLoop
    dsimp only
    generalize xccdfPolicyCheckEvaluate model policy env none
      (check.injectContentRef content (some name)) s = r at htrace₁ hrr₁ hbacked ⊢
    split
    · exact (RuleSteps.stop hhead₁ (by simp) _).cons_head htrace₁ hrr₁
    · have hreport := reportRuleResult_ruleSteps model rule (some r.2.1) r.1 none hhead₁ hbacked
        r.2.2
      generalize xccdfPolicyReportRuleResult model rule (some r.2.1) r.1 none r.2.2 =
        report at hreport ⊢
      split
      · exact hreport.cons_head htrace₁ hrr₁
      · rename_i hzero
        have hreport₀ : RuleSteps env rule 0 (head ++ events₁) r.2.2 report.2 := by
          rwa [← not_not.mp hzero]
        cases names with
        | nil => exact hreport.cons_head htrace₁ hrr₁
        | cons next rest =>
          dsimp only
          obtain ⟨hrr₂, events₂, htrace₂, hstarts⟩ :=
            reportCb_start_events model.callbacks rule report.2
          generalize xccdfPolicyReportCb model.callbacks startSystem (.start rule) report.2 =
            started at htrace₂ hrr₂ ⊢
          split
          · exact (hreport₀.trans ((RuleSteps.stop (BlockHead.of_starts hstarts) ‹_› _).cons_head
              htrace₂ hrr₂)).cons_head htrace₁ hrr₁
          · exact (hreport₀.trans ((ruleMultiCheckLoop_ruleSteps check content next rest _ _
              (BlockHead.of_starts hstarts)).cons_head htrace₂ hrr₂)).cons_head htrace₁ hrr₁

theorem ruleEvalContent_ruleSteps (check : XccdfCheck) (system : String)
    (bindings : List XccdfValueBinding) (content : XccdfCheckContentRef)
    {next : Option String → Int → XccdfRun σ → Int × XccdfRun σ}
    (hnext : ∀ message ret s head, BlockHead rule head → Backed env ret head →
      RuleSteps env rule (next message ret s).1 head s (next message ret s).2)
    (message : Option String) (s : XccdfRun σ) {head : List XccdfEvent}
    (hhead : BlockHead rule head) :
    RuleSteps env rule (ruleEvalContent model rule check system bindings content next message s).1
      head s (ruleEvalContent model rule check system bindings content next message s).2 := by
  obtain ⟨hrr, events, htrace, hevals, -⟩ :=
    evaluateCb_engineSteps model.callbacks system content.name content.href none bindings s
  have hhead' := hhead.append_checks fun e he => XccdfEvent.checksRule_of_isEval (hevals e he)
  have hbacked : Backed env _ (head ++ events) :=
    Backed.of_yieldsVerdict htrace (evaluateCb_yieldsVerdict _ _ _ _ _ _ s)
  unfold ruleEvalContent
  dsimp only
  split
  · exact (ruleFinish_ruleSteps model env rule _ _ _ hhead' hbacked _).cons_head htrace hrr
  · exact (hnext _ _ _ _ hhead' hbacked).cons_head htrace hrr

theorem ruleContentRefsLoop_ruleSteps (check : XccdfCheck) (system : String)
    (multicheck : Bool) (bindings : List XccdfValueBinding) :
    ∀ (contents : List XccdfCheckContentRef) (message : Option String) (ret : Int)
      (s : XccdfRun σ) (head : List XccdfEvent), BlockHead rule head → Backed env ret head →
      RuleSteps env rule (ruleContentRefsLoop model policy env rule check system multicheck bindings
          contents message ret s).1 head s
        (ruleContentRefsLoop model policy env rule check system multicheck bindings contents message
          ret s).2
  | [], _, _, s, _, hhead, hbacked => ruleFinish_ruleSteps model env rule check _ _ hhead hbacked s
  | content :: contents, _, _, s, head, hhead, _ => by
    have heval := ruleEvalContent_ruleSteps model env rule check system bindings content
      (ruleContentRefsLoop_ruleSteps check system multicheck bindings contents)
    obtain ⟨hrr, ⟨events, htrace, hqueries⟩, -⟩ :=
      getNamesforHrefLoop_spec content.href (callbacksBySysname model.callbacks system) s
    have hhead' : BlockHead rule (head ++ events) := hhead.append_checks fun e he => by
      obtain ⟨cb, -, rfl⟩ := hqueries e he
      trivial
    unfold ruleContentRefsLoop
    split
    · dsimp only
      split
      · exact (reportRuleResult_ruleSteps model rule _ _ _ hhead' (.of_not (by decide))
          _).cons_head htrace hrr
      · exact (ruleMultiCheckLoop_ruleSteps model policy env rule check content _ _ _ _
          hhead').cons_head htrace hrr
      · exact (heval _ _ hhead').cons_head htrace hrr
    · exact heval _ _ hhead

theorem ruleEvaluateCheck_ruleSteps (check : XccdfCheck) (s : XccdfRun σ)
    {head : List XccdfEvent} (hhead : BlockHead rule head) :
    RuleSteps env rule (xccdfPolicyRuleEvaluateCheck model policy env rule check s).1 head s
      (xccdfPolicyRuleEvaluateCheck model policy env rule check s).2 := by
  cases check with
  | complex oper negate children =>
    obtain ⟨hrr, events, htrace, hevals⟩ :=
      checkEvaluate_onlyEngineCalls model policy env none (.complex oper negate children) s
    exact (reportRuleResult_ruleSteps model rule _ _ _ (hhead.append_checks fun e he =>
      XccdfEvent.checksRule_of_isEval (hevals e he))
      (.of_yieldsVerdict htrace (checkEvaluate_yieldsVerdict model policy env none _ s))
      _).cons_head htrace hrr
  | simple system selector negate multicheck contents exports =>
    simp only [xccdfPolicyRuleEvaluateCheck]
    split
    · exact reportRuleResult_ruleSteps model rule _ _ _ hhead (.of_not (by decide)) s
    · exact ruleContentRefsLoop_ruleSteps model policy env rule _ _ _ _ contents _ _ s head hhead
        fun hv => .inr hv

/-- A Rule's evaluation is whole blocks of the Rule, and the head of one more where it stops
on a non-zero answer: the start hooks, or `-1` from an engine or from the uninitialised
`ret`. -/
theorem ruleEvaluate_ruleSteps (path : List XccdfGroup) (s : XccdfRun σ) :
    RuleSteps env rule (xccdfPolicyRuleEvaluate model policy env rule path s).1 [] s
      (xccdfPolicyRuleEvaluate model policy env rule path s).2 := by
  obtain ⟨hrr, events, htrace, hstarts⟩ := reportCb_start_events model.callbacks rule s
  have hhead := BlockHead.of_starts hstarts
  unfold xccdfPolicyRuleEvaluate
  dsimp only
  split
  · exact (RuleSteps.stop hhead ‹_› _).cons_head htrace hrr
  · split
    · exact (reportRuleResult_ruleSteps model rule _ _ _ hhead (.of_not (by decide))
        _).cons_head htrace hrr
    · have happ : BlockHead rule (events ++ [.applicability rule.id]) :=
        hhead.append_checks (by simp [XccdfEvent.ChecksRule])
      have hcont : ∀ {ret : Int} {s₃ : XccdfRun σ},
          RuleSteps env rule ret (events ++ [.applicability rule.id])
            { (xccdfPolicyReportCb model.callbacks startSystem (.start rule) s).2 with
              trace := (xccdfPolicyReportCb model.callbacks startSystem (.start rule) s).2.trace ++
                [.applicability rule.id] } s₃ →
          RuleSteps env rule ret [] s s₃ :=
        fun h => (h.cons_head rfl rfl).cons_head htrace hrr
      split
      · exact hcont (reportRuleResult_ruleSteps model rule _ _ _ happ (.of_not (by decide)) _)
      · split
        · exact hcont (reportRuleResult_ruleSteps model rule _ _ _ happ (.of_not (by decide)) _)
        · exact hcont (ruleEvaluateCheck_ruleSteps model policy env rule _ _ happ)

/-- The blocks of a Rule's evaluation, with what `ruleEvaluate_runExtends` says of the whole
run: each block's RuleResult is one of the Rule, and the blocks and the open head call engines
only as the check chosen for the Rule asks. -/
theorem ruleEvaluate_blocks (path : List XccdfGroup) (s : XccdfRun σ) :
    ∃ blocks : List (XccdfRuleResult × List XccdfEvent), ∃ rest,
      (xccdfPolicyRuleEvaluate model policy env rule path s).2.trace =
        s.trace ++ blocks.flatMap (·.2) ++ rest ∧
      (∀ b ∈ blocks, Block env rule b.1 b.2 ∧ RuleResultOfRule model policy env rule path b.1 ∧
        CallsOfRule model policy env (rule, path) b.2) ∧
      BlockHead rule rest ∧ CallsOfRule model policy env (rule, path) rest ∧
      (xccdfPolicyRuleEvaluate model policy env rule path s).2.ruleResults =
        s.ruleResults ++ blocks.map (·.1) ∧
      ((xccdfPolicyRuleEvaluate model policy env rule path s).1 = 0 → rest = []) := by
  obtain ⟨events, added, htrace, hrr, blocks, rest, hev, hb, hh, rfl, hrest⟩ :=
    ruleEvaluate_ruleSteps model policy env rule path s
  obtain ⟨⟨events', htrace', hcalls⟩, added', hrr', hresults⟩ :=
    ruleEvaluate_runExtends model policy env rule path s
  obtain rfl : events' = events := List.append_cancel_left (htrace'.symm.trans htrace)
  obtain rfl : added' = blocks.map (·.1) := List.append_cancel_left (hrr'.symm.trans hrr)
  rw [List.nil_append] at hev
  subst hev
  refine ⟨blocks, rest, by rw [htrace, List.append_assoc], fun b hb' => ⟨hb b hb',
    hresults _ (List.mem_map_of_mem _ hb'), fun e he => hcalls e
      (List.mem_append_left _ (List.mem_flatMap.2 ⟨b, hb', he⟩))⟩, hh,
    fun e he => hcalls e (List.mem_append_right _ he), hrr, hrest⟩

end RuleEvaluate

/-! ## The walk over the selects -/

/-- A block of the Rule `p.1` below the Groups `p.2`: a `Block` of the Rule, so backing its
RuleResult, whose RuleResult is one of the Rule and whose engine calls are asked by the check
chosen for it. -/
def RuleBlock (model : XccdfPolicyModel σ) (policy : XccdfPolicy) (env : XccdfEnvironment)
    (p : XccdfRule × List XccdfGroup) (ruleResult : XccdfRuleResult) (events : List XccdfEvent) :
    Prop :=
  Block env p.1 ruleResult events ∧ RuleResultOfRule model policy env p.1 p.2 ruleResult ∧
    CallsOfRule model policy env p events

/-- The walk adds whole blocks of Rules of the Benchmark, whose RuleResults it adds in order,
and at most the head of one more block. -/
theorem evaluateSelects_blocks (model : XccdfPolicyModel σ) (policy : XccdfPolicy)
    (env : XccdfEnvironment) :
    ∀ (sels : List XccdfSelect) (s : XccdfRun σ),
      ∃ blocks : List (XccdfRuleResult × List XccdfEvent), ∃ rest,
        (xccdfPolicyEvaluateSelects model policy env sels s).2.trace =
          s.trace ++ blocks.flatMap (·.2) ++ rest ∧
        (∀ b ∈ blocks, ∃ p ∈ model.benchmark.rulePaths, RuleBlock model policy env p b.1 b.2) ∧
        (rest = [] ∨ ∃ p ∈ model.benchmark.rulePaths,
          BlockHead p.1 rest ∧ CallsOfRule model policy env p rest) ∧
        (xccdfPolicyEvaluateSelects model policy env sels s).2.ruleResults =
          s.ruleResults ++ blocks.map (·.1)
  | [], s => ⟨[], [], by simp [xccdfPolicyEvaluateSelects], by simp, .inl rfl,
      by simp [xccdfPolicyEvaluateSelects]⟩
  | sel :: sels, s => by
    unfold xccdfPolicyEvaluateSelects
    split
    · rename_i rule path hitem
      have hp : (rule, path) ∈ model.benchmark.rulePaths := by
        simpa using model.benchmark.rulePaths_of_getItem hitem (rule, [])
          (by simp [XccdfItem.rulePaths])
      obtain ⟨blocks, rest, htrace, hb, hh, hcalls, hrr, hrest⟩ :=
        ruleEvaluate_blocks model policy env rule path s
      have hblocks : ∀ b ∈ blocks, ∃ p ∈ model.benchmark.rulePaths,
          RuleBlock model policy env p b.1 b.2 :=
        fun b hb' => ⟨(rule, path), hp, hb b hb'⟩
      dsimp only
      split
      · rename_i h0
        obtain rfl := hrest h0
        obtain ⟨blocks', rest', htrace', hb', hh', hrr'⟩ := evaluateSelects_blocks model policy env
          sels (xccdfPolicyRuleEvaluate model policy env rule path s).2
        refine ⟨blocks ++ blocks', rest', ?_, List.forall_mem_append.2 ⟨hblocks, hb'⟩, hh', ?_⟩
        · rw [htrace', htrace, List.flatMap_append]
          simp
        · rw [hrr', hrr, List.map_append, List.append_assoc]
      · exact ⟨blocks, rest, htrace, hblocks, .inr ⟨(rule, path), hp, hh, hcalls⟩, hrr⟩
    · exact evaluateSelects_blocks model policy env sels s

/-- Whatever the callbacks answer, the trace of `xccdf_policy_evaluate` is whole blocks of Rules
of the Benchmark, each the Rule's start hook calls, its checks, the append of a RuleResult made
from the Rule and the output hook calls on that RuleResult, then at most the head of one more
block, where the evaluation stopped. Each block's RuleResult is one of its Rule
(`RuleResultOfRule`), and the engine calls of a block or of the open head are asked by the
check chosen for its Rule. A Pass or Fail RuleResult follows, in the head of its own block, an
engine call that answered Pass, Fail or a code below `-1`, unless the uninitialised `ret` is
itself Pass or Fail.
The RuleResults of the run, and of the TestResult it returns, are those of the blocks in order:
one block per RuleResult. -/
theorem evaluate_blocks (model : XccdfPolicyModel σ) (policy : XccdfPolicy)
    (env : XccdfEnvironment) (s : XccdfRun σ) :
    ∃ blocks : List (XccdfRuleResult × List XccdfEvent), ∃ rest,
      (xccdfPolicyEvaluate model policy env s).2.2.trace =
        s.trace ++ blocks.flatMap (·.2) ++ rest ∧
      (∀ b ∈ blocks, ∃ p ∈ model.benchmark.rulePaths, RuleBlock model policy env p b.1 b.2) ∧
      (rest = [] ∨ ∃ p ∈ model.benchmark.rulePaths,
        BlockHead p.1 rest ∧ CallsOfRule model policy env p rest) ∧
      (xccdfPolicyEvaluate model policy env s).2.2.ruleResults = blocks.map (·.1) ∧
      ∀ result ∈ (xccdfPolicyEvaluate model policy env s).1,
        result.ruleResults = blocks.map (·.1) := by
  obtain ⟨blocks, rest, htrace, hb, hh, hrr⟩ :=
    evaluateSelects_blocks model policy env policy.selects { s with ruleResults := [] }
  dsimp only [xccdfPolicyEvaluate]
  split
  · exact ⟨blocks, rest, htrace, hb, hh, hrr, fun _ h => by cases h⟩
  · exact ⟨blocks, rest, htrace, hb, hh, hrr, fun _ h => by cases h; exact hrr⟩

end Xccdf
