import XccdfPolicy.Model
import XccdfPolicy.Resolve
import XccdfPolicy.Score
import XccdfPolicy.Files

/-!
# What a TestResult holds, and which engines an evaluation calls

Whatever the callbacks answer, `xccdf_policy_evaluate` adds only RuleResults that
`_xccdf_rule_result_new_from_rule` made from Rules of the Benchmark, NotSelected ones for the
Rules the policy does not select, and calls only the engines of the check chosen for a Rule
the policy selects and whose platforms apply. One relation on runs (`RunExtends`) carries both
facts through every layer of the evaluation, one lemma per function of the source.

* `evaluate_engineCalls`: every engine call of an evaluation is for a Rule the policy selects
  and finds applicable, and is one the check `_xccdf_policy_rule_get_applicable_check` chose
  for it asks: a simple check's system, one of its hrefs and its exports' bindings. The start
  hooks are not engines: they run for every Rule the walk meets, before the selection test.
* `evaluate_policyNew_notSelected`: every RuleResult of a new policy's TestResult is about a
  Rule of the Benchmark, and NotSelected when the profile does not effectively select that
  Rule.
* `isCounted_evaluate_policyNew`: hence every Rule the scores count in that TestResult is
  effectively selected.
* `isCounted_evaluate`: for any policy, every Rule the scores count is selected, applies, and
  has a chosen check.
* `evaluate_resolve_ruleResults`: after `xccdf_policy_resolve` succeeds, the RuleResults of
  an evaluation carry the role and severity of each Rule's last refine-rule and the Rule's own
  weight.
* `evaluate_engineCalls_listed`: without a Value in the Benchmark's content, every engine call
  reads a pair and a file that `xccdf_policy_model_get_systems_and_files` and
  `xccdf_policy_model_get_files` list.
-/

namespace Xccdf

variable {σ : Type}

/-! ## Engine calls and RuleResults along a run -/

/-- What an engine is asked: its system, the definition name, the href and the value
bindings. -/
structure XccdfEngineCall where
  system : String
  content : Option String
  href : String
  bindings : List XccdfValueBinding

/-- The engine call an event records; the other events call no engine. -/
def XccdfEvent.engineCall : XccdfEvent → Option XccdfEngineCall
  | .call system (.eval _ content href bindings) _ => some ⟨system, content, href, bindings⟩
  | _ => none

/-- The content-refs of a simple check; a complex check has none of its own. -/
def XccdfCheck.contentRefs : XccdfCheck → List XccdfCheckContentRef
  | .simple _ _ _ _ contents _ => contents
  | .complex .. => []

/-- An engine call made for the check: for a simple check at or below it, to its system, on
the href of one of its content-refs, with the bindings `profile` gives its exports. -/
inductive XccdfCheck.Asks (benchmark : XccdfBenchmark) (profile : XccdfProfile)
    (call : XccdfEngineCall) : XccdfCheck → Prop
  | simple {selector : Option String} {negate multicheck : Bool}
      {contents : List XccdfCheckContentRef} {exports : List XccdfCheckExport}
      {content : XccdfCheckContentRef} : content ∈ contents → call.href = content.href →
      xccdfPolicyCheckGetValueBindings benchmark profile exports = some call.bindings →
      XccdfCheck.Asks benchmark profile call
        (.simple call.system selector negate multicheck contents exports)
  | complex {oper : XccdfBoolOperator} {negate : Bool} {children : List XccdfCheck}
      {child : XccdfCheck} : child ∈ children → XccdfCheck.Asks benchmark profile call child →
      XccdfCheck.Asks benchmark profile call (.complex oper negate children)

/-- A call made for a check pinned to one of its content-refs is made for the check. -/
theorem XccdfCheck.Asks.of_injectContentRef {benchmark : XccdfBenchmark}
    {profile : XccdfProfile} {call : XccdfEngineCall} {check : XccdfCheck}
    {content : XccdfCheckContentRef} {name : Option String}
    (hcontent : content ∈ check.contentRefs)
    (h : (check.injectContentRef content name).Asks benchmark profile call) :
    check.Asks benchmark profile call := by
  cases check with
  | simple =>
    cases h with
    | simple hc hhref hbind =>
      obtain rfl := List.mem_singleton.mp hc
      exact .simple hcontent hhref hbind
  | complex => exact h

/-- A call a check asks reads one of the content-refs the check lists, at any depth. -/
theorem XccdfCheck.Asks.mem_entries {α : Type} (entry : String → XccdfCheckContentRef → α)
    {benchmark : XccdfBenchmark} {profile : XccdfProfile} {call : XccdfEngineCall}
    {check : XccdfCheck} (h : check.Asks benchmark profile call) :
    ∃ content : XccdfCheckContentRef, content.href = call.href ∧
      entry call.system content ∈ check.entries entry := by
  induction h with
  | simple hcontent hhref => exact ⟨_, hhref.symm, List.mem_map_of_mem _ hcontent⟩
  | complex hchild _ ih =>
    obtain ⟨content, hhref, hx⟩ := ih
    exact ⟨content, hhref, XccdfCheck.mem_listEntries entry hx hchild⟩

theorem XccdfEvent.forall_engineCall_of_none {S : XccdfEngineCall → Prop}
    {events : List XccdfEvent} (hevents : ∀ e ∈ events, e.engineCall = none) :
    ∀ e ∈ events, ∀ call ∈ e.engineCall, S call :=
  fun e he call hcall => by rw [hevents e he] at hcall; cases hcall

/-- `s'` continues `s` by events whose engine calls all satisfy `S`, and by RuleResults that
all satisfy `P`. -/
def RunExtends (S : XccdfEngineCall → Prop) (P : XccdfRuleResult → Prop) (s s' : XccdfRun σ) :
    Prop :=
  (∃ events, s'.trace = s.trace ++ events ∧ ∀ e ∈ events, ∀ call ∈ e.engineCall, S call) ∧
    ∃ added, s'.ruleResults = s.ruleResults ++ added ∧ ∀ ruleResult ∈ added, P ruleResult

/-- `_xccdf_rule_result_new_from_rule` copies the Rule's id, weight, severity and role. -/
def XccdfRuleResult.IsOf (ruleResult : XccdfRuleResult) (rule : XccdfRule) : Prop :=
  ruleResult.idref = rule.id ∧ ruleResult.weight = rule.weight ∧
    ruleResult.severity = rule.severity ∧ ruleResult.role = rule.role

theorem XccdfRuleResult.isOf_newFromRule (rule : XccdfRule) (check : Option XccdfCheck)
    (res : Int) (message : Option String) :
    (xccdfRuleResultNewFromRule rule check res message).IsOf rule :=
  ⟨rfl, rfl, rfl, rfl⟩

namespace RunExtends

variable {S S' : XccdfEngineCall → Prop} {P P' : XccdfRuleResult → Prop}
  {s₁ s₂ s₃ : XccdfRun σ}

theorem refl (s : XccdfRun σ) : RunExtends S P s s :=
  ⟨⟨[], by simp, by simp⟩, [], by simp, by simp⟩

/-- Events that call no engine and add no RuleResult. -/
theorem of_noEngine {events : List XccdfEvent} (htrace : s₂.trace = s₁.trace ++ events)
    (hevents : ∀ e ∈ events, e.engineCall = none)
    (hrr : s₂.ruleResults = s₁.ruleResults) : RunExtends S P s₁ s₂ :=
  ⟨⟨events, htrace, XccdfEvent.forall_engineCall_of_none hevents⟩, [], by simp [hrr],
    by simp⟩

theorem trans (h₁ : RunExtends S P s₁ s₂) (h₂ : RunExtends S P s₂ s₃) :
    RunExtends S P s₁ s₃ := by
  obtain ⟨⟨ev₁, ht₁, hs₁⟩, added₁, e₁, p₁⟩ := h₁
  obtain ⟨⟨ev₂, ht₂, hs₂⟩, added₂, e₂, p₂⟩ := h₂
  exact ⟨⟨ev₁ ++ ev₂, by simp [ht₁, ht₂],
      fun e he => (List.mem_append.mp he).elim (hs₁ e) (hs₂ e)⟩,
    added₁ ++ added₂, by simp [e₁, e₂],
    fun r hr => (List.mem_append.mp hr).elim (p₁ r) (p₂ r)⟩

theorem mono (h : RunExtends S P s₁ s₂) (hS : ∀ call, S call → S' call)
    (hP : ∀ r, P r → P' r) : RunExtends S' P' s₁ s₂ :=
  let ⟨⟨events, ht, hs⟩, added, e, p⟩ := h
  ⟨⟨events, ht, fun ev hev call hcall => hS call (hs ev hev call hcall)⟩, added, e,
    fun r hr => hP r (p r hr)⟩

/-- `mono` on the engine calls only. -/
theorem mono_calls (h : RunExtends S P s₁ s₂) (hS : ∀ call, S call → S' call) :
    RunExtends S' P s₁ s₂ :=
  h.mono hS fun _ h => h

end RunExtends

/-! ## The layers of a Rule's evaluation -/

section Layers

variable {S : XccdfEngineCall → Prop} {P : XccdfRuleResult → Prop}

/-- The start hooks call no engine and add no RuleResult. -/
theorem reportCb_start_runExtends (callbacks : List (XccdfCallback σ)) (rule : XccdfRule)
    (s : XccdfRun σ) :
    RunExtends S P s (xccdfPolicyReportCb callbacks startSystem (.start rule) s).2 := by
  obtain ⟨hrr, events, htrace, hcalls, -⟩ := reportCb_spec callbacks startSystem (.start rule) s
  exact .of_noEngine htrace (fun e he => by obtain ⟨ret, rfl⟩ := hcalls e he; rfl) hrr

/-- `xccdf_policy_evaluate_cb` calls engines of its system only, on its href and with its
bindings. -/
theorem evaluateCb_runExtends (callbacks : List (XccdfCallback σ)) (sysname : String)
    (content : Option String) (href : String) (ruleId : Option String)
    (bindings : List XccdfValueBinding) (s : XccdfRun σ) :
    RunExtends (fun call => call.system = sysname ∧ call.href = href ∧ call.bindings = bindings)
      P s (xccdfPolicyEvaluateCb callbacks sysname content href ruleId bindings s).2 := by
  obtain ⟨hrr, events, htrace, hcalls, -⟩ :=
    callUntil_spec XccdfTestResultType.notChecked.toInt (.eval ruleId content href bindings)
      (by simp [XccdfCallbackArg.abortCode, XccdfTestResultType.toInt])
      (callbacksBySysname callbacks sysname) s
  refine ⟨⟨events, htrace, fun e he call hcall => ?_⟩, [], by simpa using hrr, by simp⟩
  obtain ⟨cb, hcb, ret, rfl⟩ := hcalls e he
  obtain rfl : (⟨cb.system, content, href, bindings⟩ : XccdfEngineCall) = call :=
    Option.some.inj hcall
  exact ⟨of_decide_eq_true (List.mem_filter.mp hcb).2, rfl, rfl⟩

variable (model : XccdfPolicyModel σ) (policy : XccdfPolicy) (env : XccdfEnvironment)

/-- The engine calls of the content-ref loop: to `system`, on the href of one of `contents`,
with `bindings`. -/
def ContentRefCall (system : String) (contents : List XccdfCheckContentRef)
    (bindings : List XccdfValueBinding) (call : XccdfEngineCall) : Prop :=
  call.system = system ∧ (∃ content ∈ contents, call.href = content.href) ∧
    call.bindings = bindings

theorem checkContentRefsLoop_runExtends (system : String) (ruleId : Option String)
    (bindings : List XccdfValueBinding) :
    ∀ (contents : List XccdfCheckContentRef) (ret : Int) (s : XccdfRun σ),
      RunExtends (ContentRefCall system contents bindings) P s
        (checkContentRefsLoop model system ruleId bindings contents ret s).2.2
  | [], _, s => .refl s
  | content :: contents, _, s => by
    have h : RunExtends (ContentRefCall system (content :: contents) bindings) P s
        (xccdfPolicyEvaluateCb model.callbacks system content.name content.href ruleId bindings
          s).2 :=
      (evaluateCb_runExtends _ _ _ _ _ _ s).mono_calls
        fun _ ⟨h₁, h₂, h₃⟩ => ⟨h₁, ⟨content, List.mem_cons_self _ _, h₂⟩, h₃⟩
    simp only [checkContentRefsLoop]
    split
    · exact h
    · exact h.trans <|
        (checkContentRefsLoop_runExtends system ruleId bindings contents _ _).mono_calls
          fun _ ⟨h₁, ⟨c, hc, h₂⟩, h₃⟩ => ⟨h₁, ⟨c, List.mem_cons_of_mem _ hc, h₂⟩, h₃⟩

mutual
/-- Evaluating a check makes only the engine calls of the check, and adds no RuleResult. -/
theorem checkEvaluate_runExtends (ruleId : Option String) :
    ∀ (check : XccdfCheck) (s : XccdfRun σ),
      RunExtends (check.Asks model.benchmark policy.profile) P s
        (xccdfPolicyCheckEvaluate model policy env ruleId check s).2.2
  | .complex oper negate children, s => by
    have h := evaluateChildren_runExtends ruleId oper children 0 s
    simp only [xccdfPolicyCheckEvaluate]
    split <;> exact h.mono_calls fun _ ⟨_, hchild, hask⟩ => .complex hchild hask
  | .simple system selector negate multicheck contents exports, s => by
    simp only [xccdfPolicyCheckEvaluate]
    split
    · exact .refl s
    · rename_i bindings hbind
      exact (checkContentRefsLoop_runExtends model system ruleId bindings contents 0 s).mono_calls
        fun _ ⟨hsys, ⟨_, hc, hhref⟩, hbs⟩ => by subst hsys hbs; exact .simple hc hhref hbind

theorem evaluateChildren_runExtends (ruleId : Option String) (oper : XccdfBoolOperator) :
    ∀ (children : List XccdfCheck) (ret : Int) (s : XccdfRun σ),
      RunExtends (fun call => ∃ child ∈ children, child.Asks model.benchmark policy.profile call)
        P s (XccdfCheck.evaluateChildren model policy env ruleId oper children ret s).2.2
  | [], _, s => .refl s
  | child :: children, _, s => by
    have h : RunExtends
        (fun call => ∃ c ∈ child :: children, c.Asks model.benchmark policy.profile call) P s
        (xccdfPolicyCheckEvaluate model policy env ruleId child s).2.2 :=
      (checkEvaluate_runExtends ruleId child s).mono_calls
        fun _ hask => ⟨child, List.mem_cons_self _ _, hask⟩
    simp only [XccdfCheck.evaluateChildren]
    split
    · exact h
    · exact h.trans <| (evaluateChildren_runExtends ruleId oper children _ _).mono_calls
        fun _ ⟨c, hc, hask⟩ => ⟨c, List.mem_cons_of_mem _ hc, hask⟩
end

variable (rule : XccdfRule)

/-- Reporting a result adds the RuleResult `_xccdf_rule_result_new_from_rule` makes, unless
the result is `-1`, and calls no engine. -/
theorem reportRuleResult_runExtends (check : Option XccdfCheck) (res : Int)
    (message : Option String) (hP : P (xccdfRuleResultNewFromRule rule check res message))
    (s : XccdfRun σ) :
    RunExtends S P s (xccdfPolicyReportRuleResult model rule check res message s).2 := by
  by_cases hres : res = -1
  · simpa [xccdfPolicyReportRuleResult, hres] using RunExtends.refl s
  · obtain ⟨hrr, outputs, htrace, houtputs, -⟩ :=
      reportRuleResult_spec model rule check hres message s
    refine ⟨⟨_, htrace, XccdfEvent.forall_engineCall_of_none
      (List.forall_mem_cons.mpr ⟨rfl, fun e he => ?_⟩)⟩, _, hrr, by simpa using hP⟩
    obtain ⟨ret, rfl⟩ := houtputs e he
    rfl

/-- `reportRuleResult_runExtends` for the RuleResults of the Rule. -/
theorem reportRuleResult_isOf (check : Option XccdfCheck) (res : Int) (message : Option String)
    (s : XccdfRun σ) :
    RunExtends S (·.IsOf rule) s (xccdfPolicyReportRuleResult model rule check res message s).2 :=
  reportRuleResult_runExtends model rule check res message (XccdfRuleResult.isOf_newFromRule ..) s

end Layers

/-! ## A Rule's evaluation -/

/-- An engine call made for `rule` below the Groups `path`: the policy selects the Rule, its
platforms apply, and the call is one of the check chosen for it. -/
def RuleCallsEngine (model : XccdfPolicyModel σ) (policy : XccdfPolicy)
    (env : XccdfEnvironment) (rule : XccdfRule) (path : List XccdfGroup)
    (call : XccdfEngineCall) : Prop :=
  xccdfPolicyIsRuleSelected policy rule = true ∧
    xccdfPolicyModelItemIsApplicable model env
      (platformChain model.benchmark rule.platforms path) = true ∧
    ∃ check, xccdfPolicyRuleGetApplicableCheck model policy rule = some check ∧
      check.Asks model.benchmark policy.profile call

/-- A RuleResult of `rule` below the Groups `path`: NotSelected when the policy does not select
the Rule, NotApplicable when its platforms do not apply, NotChecked when no check is chosen. -/
def RuleResultOfRule (model : XccdfPolicyModel σ) (policy : XccdfPolicy)
    (env : XccdfEnvironment) (rule : XccdfRule) (path : List XccdfGroup)
    (ruleResult : XccdfRuleResult) : Prop :=
  ruleResult.IsOf rule ∧
    (xccdfPolicyIsRuleSelected policy rule = false →
      ruleResult.result = XccdfTestResultType.notSelected.toInt) ∧
    (xccdfPolicyIsRuleSelected policy rule = true →
      xccdfPolicyModelItemIsApplicable model env
        (platformChain model.benchmark rule.platforms path) = false →
      ruleResult.result = XccdfTestResultType.notApplicable.toInt) ∧
    (xccdfPolicyIsRuleSelected policy rule = true →
      xccdfPolicyModelItemIsApplicable model env
        (platformChain model.benchmark rule.platforms path) = true →
      xccdfPolicyRuleGetApplicableCheck model policy rule = none →
      ruleResult.result = XccdfTestResultType.notChecked.toInt)

section RuleEvaluate

variable (model : XccdfPolicyModel σ) (policy : XccdfPolicy) (env : XccdfEnvironment)
  (rule : XccdfRule)

theorem ruleMultiCheckLoop_runExtends (check : XccdfCheck) (content : XccdfCheckContentRef)
    (hcontent : content ∈ check.contentRefs) :
    ∀ (name : String) (names : List String) (s : XccdfRun σ),
      RunExtends (check.Asks model.benchmark policy.profile) (·.IsOf rule) s
        (ruleMultiCheckLoop model policy env rule check content name names s).2
  | name, names, s => by
    have h₁ : RunExtends (check.Asks model.benchmark policy.profile) (·.IsOf rule) s
        (xccdfPolicyCheckEvaluate model policy env none
          (check.injectContentRef content (some name)) s).2.2 :=
      (checkEvaluate_runExtends model policy env none _ s).mono_calls
        fun _ h => h.of_injectContentRef hcontent
    unfold ruleMultiCheckLoop
    dsimp only
    generalize xccdfPolicyCheckEvaluate model policy env none
      (check.injectContentRef content (some name)) s = r at h₁ ⊢
    have h₂ := h₁.trans (reportRuleResult_isOf model rule (some r.2.1) r.1 none r.2.2)
    generalize xccdfPolicyReportRuleResult model rule (some r.2.1) r.1 none r.2.2 =
      report at h₂ ⊢
    split
    · exact h₁
    · split
      · exact h₂
      · cases names with
        | nil => exact h₂
        | cons next rest =>
          dsimp only
          have h₃ := h₂.trans (reportCb_start_runExtends model.callbacks rule report.2)
          generalize xccdfPolicyReportCb model.callbacks startSystem (.start rule) report.2 =
            started at h₃ ⊢
          split
          · exact h₃
          · exact h₃.trans (ruleMultiCheckLoop_runExtends check content hcontent next rest _)

/-- The content-ref loop of a simple check: `hask` says which calls its engine calls on one of
its content-refs are. -/
theorem ruleContentRefsLoop_runExtends (check : XccdfCheck) (system : String)
    (multicheck : Bool) (bindings : List XccdfValueBinding)
    (hask : ∀ call, ContentRefCall system check.contentRefs bindings call →
      check.Asks model.benchmark policy.profile call) :
    ∀ (contents : List XccdfCheckContentRef) (message : Option String) (ret : Int)
      (s : XccdfRun σ), (∀ content ∈ contents, content ∈ check.contentRefs) →
      RunExtends (check.Asks model.benchmark policy.profile) (·.IsOf rule) s
        (ruleContentRefsLoop model policy env rule check system multicheck bindings contents
          message ret s).2
  | [], _, _, _, _ =>
    reportRuleResult_isOf model rule _ _ _ _
  | content :: contents, _, _, s, hsub => by
    have hcontent := hsub content (List.mem_cons_self _ _)
    have htail : ∀ c ∈ contents, c ∈ check.contentRefs :=
      fun c hc => hsub c (List.mem_cons_of_mem _ hc)
    have heval : ∀ message s, RunExtends (check.Asks model.benchmark policy.profile)
        (·.IsOf rule) s
        (ruleEvalContent model rule check system bindings content
          (ruleContentRefsLoop model policy env rule check system multicheck bindings contents)
          message s).2 := by
      intro message s
      have h : RunExtends (check.Asks model.benchmark policy.profile) (·.IsOf rule) s
          (xccdfPolicyEvaluateCb model.callbacks system content.name content.href none bindings
            s).2 :=
        (evaluateCb_runExtends _ _ _ _ _ _ s).mono_calls
          fun call ⟨h₁, h₂, h₃⟩ => hask call ⟨h₁, ⟨content, hcontent, h₂⟩, h₃⟩
      unfold ruleEvalContent
      dsimp only
      split
      · exact h.trans (reportRuleResult_isOf model rule _ _ _ _)
      · exact h.trans (ruleContentRefsLoop_runExtends check system multicheck bindings hask
          contents _ _ _ htail)
    have hq : RunExtends (check.Asks model.benchmark policy.profile) (·.IsOf rule) s
        (xccdfPolicyGetNamesforHref model.callbacks system content.href s).2 := by
      obtain ⟨hrr, ⟨events, htrace, hqueries⟩, -⟩ :=
        getNamesforHrefLoop_spec content.href (callbacksBySysname model.callbacks system) s
      exact .of_noEngine htrace (fun e he => by obtain ⟨cb, -, rfl⟩ := hqueries e he; rfl) hrr
    unfold ruleContentRefsLoop
    split
    · dsimp only
      split
      · exact hq.trans (reportRuleResult_isOf model rule _ _ _ _)
      · exact hq.trans
          (ruleMultiCheckLoop_runExtends model policy env rule check content hcontent _ _ _)
      · exact hq.trans (heval _ _)
    · exact heval _ _

theorem ruleEvaluateCheck_runExtends (check : XccdfCheck) (s : XccdfRun σ) :
    RunExtends (check.Asks model.benchmark policy.profile) (·.IsOf rule) s
      (xccdfPolicyRuleEvaluateCheck model policy env rule check s).2 := by
  cases check with
  | complex oper negate children =>
    exact (checkEvaluate_runExtends model policy env none _ s).trans
      (reportRuleResult_isOf model rule _ _ _ _)
  | simple system selector negate multicheck contents exports =>
    simp only [xccdfPolicyRuleEvaluateCheck]
    split
    · exact reportRuleResult_isOf model rule _ _ _ _
    · rename_i bindings hbind
      exact ruleContentRefsLoop_runExtends model policy env rule _ _ _ _
        (fun _ ⟨hsys, ⟨_, hc, hhref⟩, hbs⟩ => by subst hsys hbs; exact .simple hc hhref hbind)
        _ _ _ _ fun _ hc => hc

/-- Evaluating a Rule adds RuleResults of that Rule only, NotSelected ones when the policy does
not select it, NotApplicable ones when its platforms do not apply and NotChecked ones when no
check is chosen, and calls engines only when the policy selects the Rule and its platforms
apply, those of the systems of the check chosen for it. -/
theorem ruleEvaluate_runExtends (path : List XccdfGroup) (s : XccdfRun σ) :
    RunExtends (RuleCallsEngine model policy env rule path)
      (RuleResultOfRule model policy env rule path) s
      (xccdfPolicyRuleEvaluate model policy env rule path s).2 := by
  have hstart : RunExtends (RuleCallsEngine model policy env rule path)
      (RuleResultOfRule model policy env rule path) s
      (xccdfPolicyReportCb model.callbacks startSystem (.start rule) s).2 :=
    reportCb_start_runExtends model.callbacks rule s
  unfold xccdfPolicyRuleEvaluate
  dsimp only
  split
  · exact hstart
  · split
    · rename_i hsel
      have hunselected : xccdfPolicyIsRuleSelected policy rule = false := by simpa using hsel
      exact hstart.trans (reportRuleResult_runExtends model rule _ _ _
        ⟨XccdfRuleResult.isOf_newFromRule .., fun _ => rfl,
          fun h => absurd (hunselected.symm.trans h) (by decide),
          fun h => absurd (hunselected.symm.trans h) (by decide)⟩ _)
    · rename_i hsel
      have hselected : xccdfPolicyIsRuleSelected policy rule = true := by simpa using hsel
      have hresult : ∀ ruleResult, ruleResult.IsOf rule →
          (xccdfPolicyModelItemIsApplicable model env
            (platformChain model.benchmark rule.platforms path) = false →
            ruleResult.result = XccdfTestResultType.notApplicable.toInt) →
          (xccdfPolicyModelItemIsApplicable model env
            (platformChain model.benchmark rule.platforms path) = true →
            xccdfPolicyRuleGetApplicableCheck model policy rule = none →
            ruleResult.result = XccdfTestResultType.notChecked.toInt) →
          RuleResultOfRule model policy env rule path ruleResult :=
        fun _ hof hna hnc => ⟨hof, fun hfalse => absurd (hselected.symm.trans hfalse)
          (by decide), fun _ => hna, fun _ => hnc⟩
      have happ : RunExtends (RuleCallsEngine model policy env rule path)
          (RuleResultOfRule model policy env rule path) s
          { (xccdfPolicyReportCb model.callbacks startSystem (.start rule) s).2 with
            trace := (xccdfPolicyReportCb model.callbacks startSystem (.start rule) s).2.trace ++
              [.applicability rule.id] } :=
        hstart.trans (.of_noEngine rfl (by simp [XccdfEvent.engineCall]) rfl)
      split
      · rename_i hnotapp
        have hnotapp : xccdfPolicyModelItemIsApplicable model env
            (platformChain model.benchmark rule.platforms path) = false := by simpa using hnotapp
        exact happ.trans (reportRuleResult_runExtends model rule _ _ _
          (hresult _ (XccdfRuleResult.isOf_newFromRule ..) (fun _ => rfl)
            fun h => absurd (hnotapp.symm.trans h) (by decide)) _)
      · rename_i happl
        have happl : xccdfPolicyModelItemIsApplicable model env
            (platformChain model.benchmark rule.platforms path) = true := by simpa using happl
        split
        · exact happ.trans (reportRuleResult_runExtends model rule _ _ _
            (hresult _ (XccdfRuleResult.isOf_newFromRule ..)
              (fun h => absurd (happl.symm.trans h) (by decide)) fun _ _ => rfl) _)
        · rename_i check hcheck
          exact happ.trans ((ruleEvaluateCheck_runExtends model policy env rule check _).mono
            (fun _ hask => ⟨hselected, happl, check, hcheck, hask⟩) fun rr hof =>
              hresult rr hof (fun h => absurd (happl.symm.trans h) (by decide))
                fun _ hnone => by simp [hcheck] at hnone)

end RuleEvaluate

/-! ## The walk over the selects -/

/-- A RuleResult of a Rule `p` of the Benchmark (`RuleResultOfRule`). -/
def RuleResultOfBenchmark (model : XccdfPolicyModel σ) (policy : XccdfPolicy)
    (env : XccdfEnvironment) (ruleResult : XccdfRuleResult) : Prop :=
  ∃ p ∈ model.benchmark.rulePaths, RuleResultOfRule model policy env p.1 p.2 ruleResult

/-- An engine call made for a Rule of the Benchmark (`RuleCallsEngine`). -/
def EngineCallOfBenchmark (model : XccdfPolicyModel σ) (policy : XccdfPolicy)
    (env : XccdfEnvironment) (call : XccdfEngineCall) : Prop :=
  ∃ p ∈ model.benchmark.rulePaths, RuleCallsEngine model policy env p.1 p.2 call

/-- The loop of `xccdf_policy_evaluate` adds RuleResults of Rules of the Benchmark only,
NotSelected ones for a Rule the policy does not select, and calls engines only for Rules the
policy selects and whose platforms apply. -/
theorem evaluateSelects_runExtends (model : XccdfPolicyModel σ) (policy : XccdfPolicy)
    (env : XccdfEnvironment) :
    ∀ (sels : List XccdfSelect) (s : XccdfRun σ),
      RunExtends (EngineCallOfBenchmark model policy env)
        (RuleResultOfBenchmark model policy env) s
        (xccdfPolicyEvaluateSelects model policy env sels s).2
  | [], s => .refl s
  | sel :: sels, s => by
    unfold xccdfPolicyEvaluateSelects
    split
    · rename_i rule path hitem
      have hp : (rule, path) ∈ model.benchmark.rulePaths := by
        simpa using model.benchmark.rulePaths_of_getItem hitem (rule, [])
          (by simp [XccdfItem.rulePaths])
      have hrule : RunExtends (EngineCallOfBenchmark model policy env)
          (RuleResultOfBenchmark model policy env) s
          (xccdfPolicyRuleEvaluate model policy env rule path s).2 :=
        (ruleEvaluate_runExtends model policy env rule path s).mono
          (fun _ h => ⟨(rule, path), hp, h⟩) fun _ h => ⟨(rule, path), hp, h⟩
      dsimp only
      split
      · exact hrule.trans (evaluateSelects_runExtends model policy env sels _)
      · exact hrule
    · exact evaluateSelects_runExtends model policy env sels s

/-- An evaluation extends the run by the walk over the selects, from no RuleResult, and a
TestResult it returns holds the RuleResults of that walk. -/
theorem evaluate_runExtends (model : XccdfPolicyModel σ) (policy : XccdfPolicy)
    (env : XccdfEnvironment) (s : XccdfRun σ) :
    RunExtends (EngineCallOfBenchmark model policy env)
        (RuleResultOfBenchmark model policy env) { s with ruleResults := [] }
        (xccdfPolicyEvaluate model policy env s).2.2 ∧
      ∀ result ∈ (xccdfPolicyEvaluate model policy env s).1,
        result.ruleResults = (xccdfPolicyEvaluate model policy env s).2.2.ruleResults := by
  dsimp only [xccdfPolicyEvaluate]
  split
  · exact ⟨evaluateSelects_runExtends model policy env _ _, fun _ h => by cases h⟩
  · exact ⟨evaluateSelects_runExtends model policy env _ _, fun _ h => by cases h; rfl⟩

/-- Whatever the callbacks answer, every engine call of `xccdf_policy_evaluate` is made for a
Rule `p` of the Benchmark that the policy selects and whose platforms apply, and is one the
check `_xccdf_policy_rule_get_applicable_check` chose for `p` asks: the system of a simple
check at or below it, the href of one of that check's content-refs, and the bindings the
profile gives its exports. No engine is asked about an unselected or inapplicable Rule, nor
about another Rule's checks. -/
theorem evaluate_engineCalls (model : XccdfPolicyModel σ) (policy : XccdfPolicy)
    (env : XccdfEnvironment) (s : XccdfRun σ) :
    ∃ events, (xccdfPolicyEvaluate model policy env s).2.2.trace = s.trace ++ events ∧
      ∀ e ∈ events, ∀ call ∈ e.engineCall, ∃ p ∈ model.benchmark.rulePaths,
        xccdfPolicyIsRuleSelected policy p.1 = true ∧
        xccdfPolicyModelItemIsApplicable model env
          (platformChain model.benchmark p.1.platforms p.2) = true ∧
        ∃ check, xccdfPolicyRuleGetApplicableCheck model policy p.1 = some check ∧
          check.Asks model.benchmark policy.profile call :=
  (evaluate_runExtends model policy env s).1.1

/-- Whatever the callbacks answer, each RuleResult of the TestResult is one of a Rule of the
Benchmark, NotSelected when the policy does not select that Rule. -/
theorem evaluate_ruleResultOfBenchmark (model : XccdfPolicyModel σ) (policy : XccdfPolicy)
    (env : XccdfEnvironment) (s : XccdfRun σ) :
    ∀ result ∈ (xccdfPolicyEvaluate model policy env s).1,
      ∀ ruleResult ∈ result.ruleResults,
        RuleResultOfBenchmark model policy env ruleResult := by
  intro result hresult
  obtain ⟨-, added, hadded, hP⟩ := (evaluate_runExtends model policy env s).1
  rw [(evaluate_runExtends model policy env s).2 result hresult, hadded]
  simpa using hP

/-- A RuleResult about a Rule `p` of the Benchmark, NotSelected when the profile does not
effectively select `p`. -/
def SelectionRespected (benchmark : XccdfBenchmark) (profile : XccdfProfile)
    (ruleResult : XccdfRuleResult) : Prop :=
  ∃ p ∈ benchmark.rulePaths, ruleResult.idref = p.1.id ∧
    (effectiveSelected profile p.1 p.2 = false →
      ruleResult.result = XccdfTestResultType.notSelected.toInt)

theorem evaluate_policyNew_selectionRespected (model : XccdfPolicyModel σ)
    (profile : XccdfProfile) (env : XccdfEnvironment) (s : XccdfRun σ) :
    ∀ result ∈ (xccdfPolicyEvaluate model (xccdfPolicyNew model.benchmark profile) env s).1,
      ∀ ruleResult ∈ result.ruleResults,
        SelectionRespected model.benchmark profile ruleResult := by
  intro result hresult ruleResult hmem
  obtain ⟨p, hp, hof, hns, -⟩ :=
    evaluate_ruleResultOfBenchmark model _ env s result hresult ruleResult hmem
  exact ⟨p, hp, hof.1, fun heff => hns (by rw [isRuleSelected_policyNew _ _ hp]; exact heff)⟩

/-- Whatever the callbacks answer, every RuleResult of the TestResult of a new policy is about
a Rule of the Benchmark (ids are unique, so about the Rule `p` found), and is NotSelected when
the profile does not effectively select that Rule: no Rule outside the selection gets any
other result. -/
theorem evaluate_policyNew_notSelected (model : XccdfPolicyModel σ) (profile : XccdfProfile)
    (env : XccdfEnvironment) (s : XccdfRun σ) :
    ∀ result ∈ (xccdfPolicyEvaluate model (xccdfPolicyNew model.benchmark profile) env s).1,
      ∀ ruleResult ∈ result.ruleResults, ∃ p ∈ model.benchmark.rulePaths,
        ruleResult.idref = p.1.id ∧ (effectiveSelected profile p.1 p.2 = false →
          ruleResult.result = XccdfTestResultType.notSelected.toInt) :=
  evaluate_policyNew_selectionRespected model profile env s

/-- The Rule `r` below the deselected Group `g` gets one RuleResult, NotSelected. -/
theorem evaluate_policyNew_notSelected_deselectedGroup :
    ∃ result ∈ (xccdfPolicyEvaluate (xccdfPolicyModelNew deselectedGroupBenchmark)
        (xccdfPolicyNew deselectedGroupBenchmark emptyProfile) plainEnvironment
        ⟨(), [], []⟩).1,
      ∃ ruleResult ∈ result.ruleResults, ∃ p ∈ deselectedGroupBenchmark.rulePaths,
        ruleResult.idref = p.1.id ∧ (effectiveSelected emptyProfile p.1 p.2 = false →
          ruleResult.result = XccdfTestResultType.notSelected.toInt) := by
  obtain ⟨result, hresult⟩ : ∃ result, (xccdfPolicyEvaluate
      (xccdfPolicyModelNew deselectedGroupBenchmark : XccdfPolicyModel Unit)
      (xccdfPolicyNew deselectedGroupBenchmark emptyProfile) plainEnvironment
      ⟨(), [], []⟩).1 = some result := Option.isSome_iff_exists.mp (by decide)
  obtain ⟨ruleResult, hmem⟩ : ∃ ruleResult, ruleResult ∈ result.ruleResults := by
    have hlen : result.ruleResults.length = 1 := by
      simpa [hresult] using (by decide : (xccdfPolicyEvaluate
        (xccdfPolicyModelNew deselectedGroupBenchmark : XccdfPolicyModel Unit)
        (xccdfPolicyNew deselectedGroupBenchmark emptyProfile) plainEnvironment
        ⟨(), [], []⟩).1.map (·.ruleResults.length) = some 1)
    exact List.exists_mem_of_length_pos (by omega)
  exact ⟨result, hresult, ruleResult, hmem, evaluate_policyNew_notSelected
    (xccdfPolicyModelNew deselectedGroupBenchmark) emptyProfile plainEnvironment ⟨(), [], []⟩
    result hresult ruleResult hmem⟩

/-- Two Rules of the Benchmark with one id are one Rule, below the same Groups. -/
theorem XccdfBenchmark.rulePath_eq_of_id (benchmark : XccdfBenchmark)
    {p q : XccdfRule × List XccdfGroup} (hp : p ∈ benchmark.rulePaths)
    (hq : q ∈ benchmark.rulePaths) (hid : q.1.id = p.1.id) : q = p := by
  have h := benchmark.getItem_of_mem_rulePaths hq
  rw [hid, benchmark.getItem_of_mem_rulePaths hp] at h
  obtain ⟨h₁, h₂⟩ := Prod.mk.inj (Option.some.inj h)
  exact Prod.ext (XccdfItem.rule.inj h₁).symm h₂.symm

/-- Whatever the callbacks answer, a Rule that the scores of `xccdf_policy_get_score` count in
the TestResult of a new policy (its first RuleResult neither NotSelected, NotApplicable,
Informational nor NotChecked) is effectively selected by the profile. -/
theorem isCounted_evaluate_policyNew (model : XccdfPolicyModel σ) (profile : XccdfProfile)
    (env : XccdfEnvironment) (s : XccdfRun σ) :
    ∀ result ∈ (xccdfPolicyEvaluate model (xccdfPolicyNew model.benchmark profile) env s).1,
      ∀ p ∈ model.benchmark.rulePaths, isCounted result p.1 = true →
        effectiveSelected profile p.1 p.2 = true := by
  intro result hresult p hp hcounted
  unfold isCounted XccdfResult.getRuleResultById at hcounted
  split at hcounted
  · rename_i ruleResult hfind
    obtain ⟨q, hq, hid, hns⟩ := evaluate_policyNew_selectionRespected model profile env s result
      hresult ruleResult (List.mem_of_find?_eq_some hfind)
    obtain rfl := model.benchmark.rulePath_eq_of_id hp hq
      (hid.symm.trans (by simpa using List.find?_some hfind))
    by_contra heff
    simp [hns (by simpa using heff), isIgnoredResult] at hcounted
  · cases hcounted

/-- The Rule `r` with one simple check of system `sys`. -/
def checkedRule : XccdfRule :=
  { plainRule "r" with checks := [simpleCheckOn "def"] }

/-- A Benchmark holding `checkedRule` only. -/
def checkedRuleBenchmark : XccdfBenchmark :=
  { id := "benchmark", platforms := [], content := [.rule checkedRule], plainTexts := [],
    schemaVersion := "1.2", cpeList := none, cpeLangModel := none, profiles := [],
    ids_nodup := by decide }

/-- The new model of `checkedRuleBenchmark` with an engine of system `sys` that answers Pass. -/
def passingModel : XccdfPolicyModel Unit :=
  xccdfPolicyModelRegisterEngineCallback (xccdfPolicyModelNew checkedRuleBenchmark) "sys"
    fun w _ => (XccdfTestResultType.pass.toInt, w)

/-- The new policy of `passingModel` returns a TestResult that counts `checkedRule`, a Rule of
the Benchmark. -/
theorem passingModel_counts_checkedRule :
    (checkedRule, []) ∈ passingModel.benchmark.rulePaths ∧
      ∃ result, (xccdfPolicyEvaluate passingModel
        (xccdfPolicyNew passingModel.benchmark emptyProfile) plainEnvironment
        ⟨(), [], []⟩).1 = some result ∧ isCounted result checkedRule = true := by
  refine ⟨by simp [passingModel, xccdfPolicyModelRegisterEngineCallback,
    xccdfPolicyModelRegisterEngineAndQueryCallback, XccdfPolicyModel.addCallback,
    xccdfPolicyModelNew, checkedRuleBenchmark, XccdfBenchmark.rulePaths,
    XccdfItem.listRulePaths, XccdfItem.rulePaths], ?_⟩
  obtain ⟨result, hresult⟩ : ∃ result, (xccdfPolicyEvaluate passingModel
      (xccdfPolicyNew passingModel.benchmark emptyProfile) plainEnvironment
      ⟨(), [], []⟩).1 = some result := Option.isSome_iff_exists.mp (by decide)
  refine ⟨result, hresult, ?_⟩
  simpa [hresult] using (by decide : (xccdfPolicyEvaluate passingModel
    (xccdfPolicyNew passingModel.benchmark emptyProfile) plainEnvironment
    ⟨(), [], []⟩).1.map (isCounted · checkedRule) = some true)

theorem isCounted_evaluate_policyNew_passing :
    ∃ result ∈ (xccdfPolicyEvaluate passingModel
        (xccdfPolicyNew passingModel.benchmark emptyProfile) plainEnvironment ⟨(), [], []⟩).1,
      ∃ p ∈ passingModel.benchmark.rulePaths, isCounted result p.1 = true ∧
        effectiveSelected emptyProfile p.1 p.2 = true := by
  obtain ⟨hp, result, hresult, hcounted⟩ := passingModel_counts_checkedRule
  exact ⟨result, hresult, _, hp, hcounted, isCounted_evaluate_policyNew passingModel emptyProfile
    plainEnvironment ⟨(), [], []⟩ result hresult _ hp hcounted⟩

/-- Whatever the callbacks answer, a Rule that the scores of `xccdf_policy_get_score` count in
the TestResult of any policy is selected by the policy, its platforms apply, and
`_xccdf_policy_rule_get_applicable_check` chose a check for it: the scores never count a Rule
the evaluation reported NotSelected, NotApplicable or NotChecked for want of a check. -/
theorem isCounted_evaluate (model : XccdfPolicyModel σ) (policy : XccdfPolicy)
    (env : XccdfEnvironment) (s : XccdfRun σ) :
    ∀ result ∈ (xccdfPolicyEvaluate model policy env s).1,
      ∀ p ∈ model.benchmark.rulePaths, isCounted result p.1 = true →
        xccdfPolicyIsRuleSelected policy p.1 = true ∧
        xccdfPolicyModelItemIsApplicable model env
          (platformChain model.benchmark p.1.platforms p.2) = true ∧
        (xccdfPolicyRuleGetApplicableCheck model policy p.1).isSome = true := by
  intro result hresult p hp hcounted
  unfold isCounted XccdfResult.getRuleResultById at hcounted
  split at hcounted
  · rename_i ruleResult hfind
    obtain ⟨q, hq, hof, hns, hna, hnc⟩ := evaluate_ruleResultOfBenchmark model policy env s
      result hresult ruleResult (List.mem_of_find?_eq_some hfind)
    obtain rfl := model.benchmark.rulePath_eq_of_id hp hq
      (hof.1.symm.trans (by simpa using List.find?_some hfind))
    have hsel : xccdfPolicyIsRuleSelected policy q.1 = true := by
      by_contra h
      simp [hns (by simpa using h), isIgnoredResult] at hcounted
    have happ : xccdfPolicyModelItemIsApplicable model env
        (platformChain model.benchmark q.1.platforms q.2) = true := by
      by_contra h
      simp [hna hsel (by simpa using h), isIgnoredResult] at hcounted
    refine ⟨hsel, happ, ?_⟩
    by_contra h
    simp [hnc hsel happ (by simpa using h), isIgnoredResult] at hcounted
  · cases hcounted

theorem isCounted_evaluate_passing :
    ∃ result ∈ (xccdfPolicyEvaluate passingModel
        (xccdfPolicyNew passingModel.benchmark emptyProfile) plainEnvironment ⟨(), [], []⟩).1,
      ∃ p ∈ passingModel.benchmark.rulePaths, isCounted result p.1 = true ∧
        xccdfPolicyIsRuleSelected (xccdfPolicyNew passingModel.benchmark emptyProfile) p.1 =
          true ∧
        xccdfPolicyModelItemIsApplicable passingModel plainEnvironment
          (platformChain passingModel.benchmark p.1.platforms p.2) = true ∧
        (xccdfPolicyRuleGetApplicableCheck passingModel
          (xccdfPolicyNew passingModel.benchmark emptyProfile) p.1).isSome = true := by
  obtain ⟨hp, result, hresult, hcounted⟩ := passingModel_counts_checkedRule
  exact ⟨result, hresult, _, hp, hcounted, isCounted_evaluate passingModel _ plainEnvironment
    ⟨(), [], []⟩ result hresult _ hp hcounted⟩

/-! ## Evaluating the resolved Benchmark -/

/-- After `xccdf_policy_resolve` succeeds, whatever the callbacks answer, each RuleResult that
`xccdf_policy_evaluate` adds on the resolved Benchmark is about a Rule `p` of the Benchmark as
it was, with the weight of `p` and the role and severity of the LAST refine-rule of the profile
that names `p`, those of `p` when none does: the weight of a refine-rule never reaches a
RuleResult through `xccdf_policy_resolve`. -/
theorem evaluate_resolve_ruleResults (unsetWeight : ℚ) (model : XccdfPolicyModel σ)
    (policy : XccdfPolicy) (env : XccdfEnvironment) (s : XccdfRun σ)
    (hresolve : (xccdfPolicyResolve unsetWeight model.benchmark policy).1 = true) :
    ∀ result ∈ (xccdfPolicyEvaluate
        { model with benchmark := (xccdfPolicyResolve unsetWeight model.benchmark policy).2 }
        policy env s).1,
      ∀ ruleResult ∈ result.ruleResults, ∃ p ∈ model.benchmark.rulePaths,
        ruleResult.idref = p.1.id ∧ ruleResult.weight = p.1.weight ∧
          (ruleResult.role, ruleResult.severity) =
            match lastMatch (·.item)
                (policy.profile.refineRules.filter (model.benchmark.isRule ·.item)) p.1.id with
            | some refineRule => (refineRule.role, refineRule.severity)
            | none => (p.1.role, p.1.severity) := by
  intro result hresult ruleResult hmem
  obtain ⟨q, hq, ⟨hid, hweight, hseverity, hrole⟩, -⟩ :=
    evaluate_ruleResultOfBenchmark _ policy env s result hresult ruleResult hmem
  have hresolved : (xccdfPolicyResolve unsetWeight model.benchmark policy).2 =
      model.benchmark.edit
        (resolvedEdit model.benchmark unsetWeight policy.profile.refineRules) :=
    (resolveRefineRules_spec unsetWeight policy.profile.refineRules model.benchmark).2 hresolve
  rw [hresolved, XccdfBenchmark.rulePaths_edit] at hq
  obtain ⟨p, hp, rfl⟩ := List.mem_map.mp hq
  dsimp only at hid hweight hseverity hrole
  refine ⟨p, hp, hid.trans (ItemEdit.rule_id _ p.1), ?_⟩
  simp only [resolvedEdit] at hweight hseverity hrole
  -- one case per match of `resolvedEdit`, each read off the fields of the edited Rule
  split <;> rename_i hlast <;> simp only [hlast] at hweight hseverity hrole <;>
    exact ⟨hweight, by rw [hrole, hseverity]⟩

/-- A profile refining the Rule `r` of `checkedRuleBenchmark` to role 2 and severity 3, with a
weight that `xccdf_policy_resolve` leaves out. -/
def ruleRefiningProfile : XccdfProfile :=
  { emptyProfile with refineRules := [⟨"r", none, some 5, 2, 3⟩] }

/-- The new policy of `ruleRefiningProfile` on `checkedRuleBenchmark`. -/
def ruleRefiningPolicy : XccdfPolicy :=
  xccdfPolicyNew checkedRuleBenchmark ruleRefiningProfile

theorem evaluate_resolve_ruleResults_refined :
    ∃ result ∈ (xccdfPolicyEvaluate
        { passingModel with
          benchmark := (xccdfPolicyResolve 1 passingModel.benchmark ruleRefiningPolicy).2 }
        ruleRefiningPolicy plainEnvironment ⟨(), [], []⟩).1,
      ∃ ruleResult ∈ result.ruleResults, ∃ p ∈ passingModel.benchmark.rulePaths,
        ruleResult.idref = p.1.id ∧ ruleResult.weight = p.1.weight ∧
          (ruleResult.role, ruleResult.severity) =
            match lastMatch (·.item) (ruleRefiningPolicy.profile.refineRules.filter
                (passingModel.benchmark.isRule ·.item)) p.1.id with
            | some refineRule => (refineRule.role, refineRule.severity)
            | none => (p.1.role, p.1.severity) := by
  obtain ⟨result, hresult⟩ : ∃ result, (xccdfPolicyEvaluate
      { passingModel with
        benchmark := (xccdfPolicyResolve 1 passingModel.benchmark ruleRefiningPolicy).2 }
      ruleRefiningPolicy plainEnvironment ⟨(), [], []⟩).1 = some result :=
    Option.isSome_iff_exists.mp (by decide)
  obtain ⟨ruleResult, hmem⟩ : ∃ ruleResult, ruleResult ∈ result.ruleResults := by
    have hlen : result.ruleResults.length = 1 := by
      simpa [hresult] using (by decide : (xccdfPolicyEvaluate
        { passingModel with
          benchmark := (xccdfPolicyResolve 1 passingModel.benchmark ruleRefiningPolicy).2 }
        ruleRefiningPolicy plainEnvironment ⟨(), [], []⟩).1.map (·.ruleResults.length) =
          some 1)
    exact List.exists_mem_of_length_pos (by omega)
  exact ⟨result, hresult, ruleResult, hmem,
    evaluate_resolve_ruleResults 1 passingModel ruleRefiningPolicy plainEnvironment
      ⟨(), [], []⟩ (by decide) result hresult ruleResult hmem⟩

/-! ## The files an evaluation reads -/

/-- Whatever the callbacks answer, when no Value stands in the Benchmark's content, every engine
call of `xccdf_policy_evaluate` reads a file that `xccdf_policy_model_get_systems_and_files`
lists for the call's system and that `xccdf_policy_model_get_files` lists: a caller that loads
the files of these lists before evaluating has loaded every file an engine is asked about. -/
theorem evaluate_engineCalls_listed (model : XccdfPolicyModel σ) (policy : XccdfPolicy)
    (env : XccdfEnvironment) (s : XccdfRun σ)
    (hvalues : XccdfItem.listValueFree model.benchmark.content = true) :
    ∃ events, (xccdfPolicyEvaluate model policy env s).2.2.trace = s.trace ++ events ∧
      ∀ e ∈ events, ∀ call ∈ e.engineCall,
        (∃ entries, model.benchmark.getSystemsAndFiles = .ok (some entries) ∧
          ({ systemName := call.system, file := call.href } : OscapFileEntry) ∈ entries) ∧
        ∃ files, model.benchmark.getFiles = .ok (some files) ∧ call.href ∈ files := by
  obtain ⟨events, htrace, hcalls⟩ := (evaluate_runExtends model policy env s).1.1
  refine ⟨events, htrace, fun e he call hcall => ?_⟩
  obtain ⟨p, hp, -, -, check, hcheck, hasks⟩ := hcalls e he call hcall
  have hmem := ruleGetApplicableCheck_mem model policy hcheck
  obtain ⟨content, hhref, hentry⟩ := hasks.mem_entries fileEntry
  obtain ⟨content', hhref', hfile⟩ := hasks.mem_entries fun _ ref => ref.href
  rw [fileEntry, hhref] at hentry
  rw [hhref'] at hfile
  exact ⟨itemsGetEntries_mem xccdfFileEntryCmpFunc_iff _ _ hvalues hp hmem hentry,
    itemsGetEntries_mem xccdfCmpFunc_iff _ _ hvalues hp hmem hfile⟩

theorem evaluate_engineCalls_listed_passing :
    XccdfItem.listValueFree passingModel.benchmark.content = true ∧
      ∃ events, (xccdfPolicyEvaluate passingModel
          (xccdfPolicyNew passingModel.benchmark emptyProfile) plainEnvironment
          ⟨(), [], []⟩).2.2.trace = [] ++ events ∧
        ∀ e ∈ events, ∀ call ∈ e.engineCall,
          (∃ entries, passingModel.benchmark.getSystemsAndFiles = .ok (some entries) ∧
            ({ systemName := call.system, file := call.href } : OscapFileEntry) ∈ entries) ∧
          ∃ files, passingModel.benchmark.getFiles = .ok (some files) ∧ call.href ∈ files :=
  ⟨by decide, evaluate_engineCalls_listed passingModel _ plainEnvironment ⟨(), [], []⟩
    (by decide)⟩

end Xccdf
