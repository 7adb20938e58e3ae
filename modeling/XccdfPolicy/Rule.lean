import XccdfPolicy.Applicability

/-!
# The Rule runner: `_xccdf_policy_rule_evaluate`

For one Rule: fire the start hooks (a non-zero answer is returned upwards), then emit
NotSelected, NotApplicable or NotChecked when the Rule is not selected, does not apply or has
no check an engine is registered for. A chosen complex check is evaluated by
`xccdf_policy_check_evaluate`; a chosen simple check is evaluated here, content-ref by
content-ref, and a content-ref without a name under `multi-check` is expanded into one
RuleResult per definition name the engine reports, the start hooks firing again between two
names. Every RuleResult is added to the TestResult and handed to the output hooks.

* `ruleGetApplicableCheck_eq`: the chosen check is the first complex-check, or the last
  registered candidate of the refined selector (falling back to checks without a selector).
* `ruleEvaluate_effectiveSelected`: a Rule of a new policy is run exactly when its effective
  selection holds, and otherwise gets a NotSelected RuleResult of its own id.
* `ruleEvaluate_one`: under passing hooks and engines, a Rule without multi-check expansion
  adds exactly one RuleResult.
* `ruleEvaluate_multiCheck`: a multi-check adds one RuleResult per definition name, each with
  the result of its clone evaluated at the run the loop has reached for that name.
-/

namespace Xccdf

variable {σ : Type} (model : XccdfPolicyModel σ) (policy : XccdfPolicy) (env : XccdfEnvironment)

/-- `_xccdf_policy_is_rule_selected(policy, rule)`. Every Rule of the Benchmark has a select
(`getSelectById_policyNew_rule`); the source would crash on a missing one, read here as not
selected. -/
def xccdfPolicyIsRuleSelected (rule : XccdfRule) : Bool :=
  match xccdfPolicyGetSelectById policy rule.id with
  | some sel => sel.selected
  | none => false

/-- `_xccdf_policy_report_rule_result(policy, result, rule, check, res, message)` with a
TestResult: `-1` is passed up at once; any other result becomes a RuleResult of the Rule,
added to the TestResult and handed to the output hooks, whose answer is returned. -/
def xccdfPolicyReportRuleResult (rule : XccdfRule) (check : Option XccdfCheck) (res : Int)
    (message : Option String) (s : XccdfRun σ) : Int × XccdfRun σ :=
  if res = -1 then (res, s)
  else
    let ruleResult := xccdfRuleResultNewFromRule rule check res message
    xccdfPolicyReportCb model.callbacks outputSystem (.output ruleResult)
      { s with ruleResults := s.ruleResults ++ [ruleResult],
               trace := s.trace ++ [.append ruleResult] }

/-! ## Choosing the check -/

/-- `_xccdf_policy_is_engine_registered(policy, sysname)`: some callback has that system. -/
def xccdfPolicyIsEngineRegistered (sysname : String) : Bool :=
  model.callbacks.any (·.system = sysname)

/-- Modelled from the spec: `xccdf_rule_get_checks_filtered(rule, selector)` is not under src/;
the simple checks of the Rule whose selector equals `selector`, in document order. -/
def XccdfRule.checksFiltered (rule : XccdfRule) (selector : Option String) : List XccdfCheck :=
  rule.checks.filter fun check =>
    match check with
    | .simple _ checkSelector .. => checkSelector = selector
    | .complex .. => false

/-- `_xccdf_policy_rule_get_applicable_check(policy, rule)`: the first complex-check; else,
among the simple checks with the selector of the first refine-rule for the Rule (those without
a selector when a refined selector matches none), the last whose system has a callback. -/
def xccdfPolicyRuleGetApplicableCheck (rule : XccdfRule) : Option XccdfCheck :=
  match (rule.checks.filter (·.isComplex)).head? with
  | some check => some check
  | none =>
    let selector := (xccdfPolicyGetRefineRulesByRule policy.profile rule.id).bind (·.selector)
    let candidates := rule.checksFiltered selector
    let candidates := if selector.isSome && candidates.isEmpty then rule.checksFiltered none
      else candidates
    candidates.foldl (fun result check =>
      match check with
      | .simple system .. => if xccdfPolicyIsEngineRegistered model system then some check
        else result
      | .complex .. => result) none

/-- The candidate loop of `_xccdf_policy_rule_get_applicable_check` keeps the last simple check
whose system has a callback. -/
theorem applicableCheckLoop_eq (candidates : List XccdfCheck) :
    candidates.foldl (fun result check =>
        match check with
        | .simple system .. => if xccdfPolicyIsEngineRegistered model system then some check
          else result
        | .complex .. => result) none =
      (candidates.filter fun check =>
        check.system.any fun system => model.callbacks.any (·.system = system)).getLast? := by
  rw [← (List.getLast? _).or_none, ← foldl_ite_some_eq_getLast?]
  congr
  funext result check
  cases check <;> simp [XccdfCheck.system, xccdfPolicyIsEngineRegistered]

/-- The check chosen for a Rule: its first complex-check when it has one; otherwise, `s` being
the selector of the profile's first refine-rule for the Rule, the candidates are the simple
checks of selector `s` (those without a selector when `s` is set and no check has it), and the
choice is the last candidate whose system has a callback, or none. -/
theorem ruleGetApplicableCheck_eq (rule : XccdfRule) :
    xccdfPolicyRuleGetApplicableCheck model policy rule =
      match rule.checks.find? (fun check => match check with
          | .complex .. => true
          | .simple .. => false) with
      | some check => some check
      | none =>
        let selector := (policy.profile.refineRules.find? (·.item = rule.id)).bind (·.selector)
        let candidates :=
          if selector.isSome && (rule.checksFiltered selector).isEmpty then
            rule.checksFiltered none
          else rule.checksFiltered selector
        (candidates.filter fun check =>
          check.system.any fun system => model.callbacks.any (·.system = system)).getLast? := by
  have hcomplex : (fun check : XccdfCheck => match check with
      | .complex .. => true
      | .simple .. => false) = (·.isComplex) := by
    funext check
    cases check <;> rfl
  simp only [xccdfPolicyRuleGetApplicableCheck, List.filter_head?, applicableCheckLoop_eq,
    xccdfPolicyGetRefineRulesByRule, firstMatch, hcomplex]

/-- The chosen check is one of the Rule's own checks. -/
theorem ruleGetApplicableCheck_mem {rule : XccdfRule} {check : XccdfCheck}
    (h : xccdfPolicyRuleGetApplicableCheck model policy rule = some check) :
    check ∈ rule.checks := by
  unfold xccdfPolicyRuleGetApplicableCheck at h
  split at h
  · rename_i hhead
    cases h
    exact (List.mem_filter.1 (List.mem_of_mem_head? hhead)).1
  · dsimp only at h
    rw [applicableCheckLoop_eq] at h
    have hcandidate := (List.mem_filter.1 (List.mem_of_getLast?_eq_some h)).1
    split at hcandidate <;> exact (List.mem_filter.1 hcandidate).1

/-! ## The single-check path -/

/-- The end of the single-check path: NotChecked gets its message, the result is negated once,
and the RuleResult carries the check. -/
def xccdfPolicyRuleFinish (rule : XccdfRule) (check : XccdfCheck) (ret : Int)
    (message : Option String) (s : XccdfRun σ) : Int × XccdfRun σ :=
  let message := if ret = XccdfTestResultType.notChecked.toInt then
      some "None of the check-content-ref elements was resolvable."
    else message
  xccdfPolicyReportRuleResult model rule (some check) (resolveNegate check.negate ret) message s

/-- The multi-check loop: for the name `name` and the names after it, evaluate a clone of the
check pinned to `(content, name)`, report it, and fire the start hooks before the next name;
stop on `-1` or a non-zero hook answer. -/
def ruleMultiCheckLoop (rule : XccdfRule) (check : XccdfCheck)
    (content : XccdfCheckContentRef) (name : String) (names : List String) (s : XccdfRun σ) :
    Int × XccdfRun σ :=
  let r := xccdfPolicyCheckEvaluate model policy env none
    (check.injectContentRef content (some name)) s
  if r.1 = -1 then (-1, r.2.2)
  else
    let report := xccdfPolicyReportRuleResult model rule (some r.2.1) r.1 none r.2.2
    if report.1 ≠ 0 then report
    else
      match names with
      | [] => report
      | next :: rest =>
        let started := xccdfPolicyReportCb model.callbacks startSystem (.start rule) report.2
        if started.1 ≠ 0 then started
        else ruleMultiCheckLoop rule check content next rest started.2

/-- One content-ref of the single-check path: the engines of the system until one answers
other than NotChecked, which finishes the Rule with the check pinned to the content-ref;
NotChecked goes on with `next`, the loop over the content-refs after it. -/
def ruleEvalContent (rule : XccdfRule) (check : XccdfCheck) (system : String)
    (bindings : List XccdfValueBinding) (content : XccdfCheckContentRef)
    (next : Option String → Int → XccdfRun σ → Int × XccdfRun σ) (message : Option String)
    (s : XccdfRun σ) : Int × XccdfRun σ :=
  let r := xccdfPolicyEvaluateCb model.callbacks system content.name content.href none bindings s
  if r.1 ≠ XccdfTestResultType.notChecked.toInt then
    xccdfPolicyRuleFinish model rule (check.injectContentRef content none) r.1 message r.2
  else next message r.1 r.2

/-- The content-ref loop of the single-check path of `_xccdf_policy_rule_evaluate`: `message`
and `ret` are the loop's variables (`ret` starts uninitialised). A content-ref without a name
under `multi-check` asks the engines for the names in its href: no names gives one Unknown
RuleResult, some names the multi-check loop, and `NULL` falls back to a plain evaluation. -/
def ruleContentRefsLoop (rule : XccdfRule) (check : XccdfCheck) (system : String)
    (multicheck : Bool) (bindings : List XccdfValueBinding) :
    List XccdfCheckContentRef → Option String → Int → XccdfRun σ → Int × XccdfRun σ
  | [], message, ret, s => xccdfPolicyRuleFinish model rule check ret message s
  | content :: contents, _, _, s =>
    let evalContent := ruleEvalContent model rule check system bindings content
      (ruleContentRefsLoop rule check system multicheck bindings contents)
    if content.name = none ∧ multicheck = true then
      let q := xccdfPolicyGetNamesforHref model.callbacks system content.href s
      match q.1 with
      | some [] =>
        xccdfPolicyReportRuleResult model rule (some check) XccdfTestResultType.unknown.toInt
          (some "No definitions found for @multi-check.") q.2
      | some (name :: names) =>
        ruleMultiCheckLoop model policy env rule check content name names q.2
      | none =>
        evalContent
          (some "Checking engine does not support multi-check; falling back to multi-check='false'")
          q.2
    else evalContent none s

/-! ## `_xccdf_policy_rule_evaluate` -/

/-- The end of `_xccdf_policy_rule_evaluate` once the check is chosen: a complex check goes to
`xccdf_policy_check_evaluate`, a simple one through its value bindings to the content-ref
loop, from the uninitialised `ret`. -/
def xccdfPolicyRuleEvaluateCheck (rule : XccdfRule) (check : XccdfCheck) (s : XccdfRun σ) :
    Int × XccdfRun σ :=
  match check with
  | .complex oper negate children =>
    let r := xccdfPolicyCheckEvaluate model policy env none (.complex oper negate children) s
    xccdfPolicyReportRuleResult model rule (some r.2.1) r.1 none r.2.2
  | .simple system _ _ multicheck contents exports =>
    match xccdfPolicyCheckGetValueBindings model.benchmark policy.profile exports with
    | none =>
      xccdfPolicyReportRuleResult model rule (some check) XccdfTestResultType.unknown.toInt
        (some "Value bindings not found.") s
    | some bindings =>
      ruleContentRefsLoop model policy env rule check system multicheck bindings contents none
        env.uninitialisedRet s

/-- `_xccdf_policy_rule_evaluate(policy, rule, result)` for a Rule with the Groups `path`
above it. -/
def xccdfPolicyRuleEvaluate (rule : XccdfRule) (path : List XccdfGroup) (s : XccdfRun σ) :
    Int × XccdfRun σ :=
  let isSelected := xccdfPolicyIsRuleSelected policy rule
  let report := xccdfPolicyReportCb model.callbacks startSystem (.start rule) s
  if report.1 ≠ 0 then report
  else if !isSelected then
    xccdfPolicyReportRuleResult model rule none XccdfTestResultType.notSelected.toInt none report.2
  else
    let s := { report.2 with trace := report.2.trace ++ [.applicability rule.id] }
    if !xccdfPolicyModelItemIsApplicable model env
        (platformChain model.benchmark rule.platforms path) then
      xccdfPolicyReportRuleResult model rule none XccdfTestResultType.notApplicable.toInt none s
    else
      match xccdfPolicyRuleGetApplicableCheck model policy rule with
      | none =>
        xccdfPolicyReportRuleResult model rule none XccdfTestResultType.notChecked.toInt
          (some "No candidate or applicable check found.") s
      | some check => xccdfPolicyRuleEvaluateCheck model policy env rule check s

/-! ## The trace only grows -/

/-- A result other than `-1` becomes one RuleResult, recorded in the trace and followed by
the output hooks' calls on it, whose answer stops the evaluation at their last call at most. -/
theorem reportRuleResult_spec (rule : XccdfRule) (check : Option XccdfCheck) {res : Int}
    (hres : res ≠ -1) (message : Option String) (s : XccdfRun σ) :
    let ruleResult := xccdfRuleResultNewFromRule rule check res message
    let r := xccdfPolicyReportRuleResult model rule check res message s
    r.2.ruleResults = s.ruleResults ++ [ruleResult] ∧
      ∃ outputs, r.2.trace = s.trace ++ .append ruleResult :: outputs ∧
        (∀ e ∈ outputs, ∃ ret, e = .call outputSystem (.output ruleResult) ret) ∧
        AbortsWith r.1 outputs := by
  obtain ⟨hrr, outputs, htrace, hcalls, habort⟩ := reportCb_spec model.callbacks outputSystem
    (.output (xccdfRuleResultNewFromRule rule check res message))
    { s with ruleResults := s.ruleResults ++ [xccdfRuleResultNewFromRule rule check res message],
             trace := s.trace ++ [.append (xccdfRuleResultNewFromRule rule check res message)] }
  simp only [xccdfPolicyReportRuleResult, hres, if_false]
  exact ⟨hrr, outputs, by simpa using htrace, hcalls, habort⟩

theorem reportRuleResult_extends_trace (rule : XccdfRule) (check : Option XccdfCheck) (res : Int)
    (message : Option String) (s : XccdfRun σ) :
    s.trace <+: (xccdfPolicyReportRuleResult model rule check res message s).2.trace := by
  by_cases hres : res = -1
  · simp [xccdfPolicyReportRuleResult, hres]
  · obtain ⟨-, outputs, htrace, -⟩ := reportRuleResult_spec model rule check hres message s
    exact ⟨_, htrace.symm⟩

theorem ruleMultiCheckLoop_extends_trace (rule : XccdfRule) (check : XccdfCheck)
    (content : XccdfCheckContentRef) :
    ∀ (name : String) (names : List String) (s : XccdfRun σ),
      s.trace <+: (ruleMultiCheckLoop model policy env rule check content name names s).2.trace
  | name, names, s => by
    have h₁ := (checkEvaluate_onlyEngineCalls model policy env none
      (check.injectContentRef content (some name)) s).extends_trace
    unfold ruleMultiCheckLoop
    dsimp only
    generalize xccdfPolicyCheckEvaluate model policy env none
      (check.injectContentRef content (some name)) s = r at h₁ ⊢
    have h₂ := h₁.trans (reportRuleResult_extends_trace model rule (some r.2.1) r.1 none r.2.2)
    generalize xccdfPolicyReportRuleResult model rule (some r.2.1) r.1 none r.2.2 = report at h₂ ⊢
    split
    · exact h₁
    · split
      · exact h₂
      · cases names with
        | nil => exact h₂
        | cons next rest =>
          dsimp only
          have h₃ :=
            h₂.trans (reportCb_extends_trace model.callbacks startSystem (.start rule) report.2)
          generalize xccdfPolicyReportCb model.callbacks startSystem (.start rule) report.2 =
            started at h₃ ⊢
          split
          · exact h₃
          · exact h₃.trans (ruleMultiCheckLoop_extends_trace rule check content next rest _)

theorem ruleEvalContent_extends_trace (rule : XccdfRule) (check : XccdfCheck) (system : String)
    (bindings : List XccdfValueBinding) (content : XccdfCheckContentRef)
    {next : Option String → Int → XccdfRun σ → Int × XccdfRun σ}
    (hnext : ∀ message ret s, s.trace <+: (next message ret s).2.trace)
    (message : Option String) (s : XccdfRun σ) :
    s.trace <+:
      (ruleEvalContent model rule check system bindings content next message s).2.trace := by
  have h := (evaluateCb_engineSteps model.callbacks system content.name content.href none
    bindings s).extends_trace
  unfold ruleEvalContent
  dsimp only
  split
  · exact h.trans (reportRuleResult_extends_trace model rule _ _ _ _)
  · exact h.trans (hnext _ _ _)

theorem ruleContentRefsLoop_extends_trace (rule : XccdfRule) (check : XccdfCheck) (system : String)
    (multicheck : Bool) (bindings : List XccdfValueBinding) :
    ∀ (contents : List XccdfCheckContentRef) (message : Option String) (ret : Int)
      (s : XccdfRun σ),
      s.trace <+: (ruleContentRefsLoop model policy env rule check system multicheck bindings
        contents message ret s).2.trace
  | [], _, _, _ => reportRuleResult_extends_trace model rule _ _ _ _
  | content :: contents, _, _, s => by
    have heval := ruleEvalContent_extends_trace model rule check system bindings content
      (ruleContentRefsLoop_extends_trace rule check system multicheck bindings contents)
    have hq := (getNamesforHrefLoop_spec content.href
      (callbacksBySysname model.callbacks system) s).2.1
    obtain ⟨events, hq⟩ := hq
    have hq : s.trace <+: (xccdfPolicyGetNamesforHref model.callbacks system content.href s).2.trace
      := hq.1 ▸ List.prefix_append _ _
    unfold ruleContentRefsLoop
    split
    · dsimp only
      split
      · exact hq.trans (reportRuleResult_extends_trace model rule _ _ _ _)
      · exact hq.trans (ruleMultiCheckLoop_extends_trace model policy env rule check content _ _ _)
      · exact hq.trans (heval _ _)
    · exact heval _ _

theorem ruleEvaluateCheck_extends_trace (rule : XccdfRule) (check : XccdfCheck) (s : XccdfRun σ) :
    s.trace <+: (xccdfPolicyRuleEvaluateCheck model policy env rule check s).2.trace := by
  unfold xccdfPolicyRuleEvaluateCheck
  split
  · exact (checkEvaluate_onlyEngineCalls model policy env none _ s).extends_trace.trans
      (reportRuleResult_extends_trace model rule _ _ _ _)
  · split
    · exact reportRuleResult_extends_trace model rule _ _ _ _
    · exact ruleContentRefsLoop_extends_trace model policy env rule _ _ _ _ _ _ _ _

/-! ## Selection -/

theorem isRuleSelected_policyNew (benchmark : XccdfBenchmark) (profile : XccdfProfile)
    {p : XccdfRule × List XccdfGroup} (hp : p ∈ benchmark.rulePaths) :
    xccdfPolicyIsRuleSelected (xccdfPolicyNew benchmark profile) p.1 =
      effectiveSelected profile p.1 p.2 := by
  have h := getSelectById_policyNew_rule benchmark profile hp
  unfold xccdfPolicyIsRuleSelected
  split <;> simp_all

/-- A Rule of the Benchmark is recorded in a new policy with its effective selection; once the
start hooks have let it through, it gets a NotSelected RuleResult of its own id, followed by
the output hooks' calls on it only, when that selection is false, and its applicability is
evaluated next when it is true. -/
theorem ruleEvaluate_effectiveSelected (model : XccdfPolicyModel σ) (profile : XccdfProfile)
    {p : XccdfRule × List XccdfGroup} (hp : p ∈ model.benchmark.rulePaths) (s : XccdfRun σ)
    (hstart : (xccdfPolicyReportCb model.callbacks startSystem (.start p.1) s).1 = 0) :
    let policy := xccdfPolicyNew model.benchmark profile
    let started := (xccdfPolicyReportCb model.callbacks startSystem (.start p.1) s).2
    let r := xccdfPolicyRuleEvaluate model policy env p.1 p.2 s
    (xccdfPolicyGetSelectById policy p.1.id).map (·.selected) =
        some (effectiveSelected profile p.1 p.2) ∧
      (effectiveSelected profile p.1 p.2 = false →
        ∃ ruleResult outputs, ruleResult.idref = p.1.id ∧
          ruleResult.result = XccdfTestResultType.notSelected.toInt ∧
          r.2.ruleResults = s.ruleResults ++ [ruleResult] ∧
          r.2.trace = started.trace ++ .append ruleResult :: outputs ∧
          ∀ e ∈ outputs, ∃ ret, e = .call outputSystem (.output ruleResult) ret) ∧
      (effectiveSelected profile p.1 p.2 = true →
        ∃ rest, r.2.trace = started.trace ++ .applicability p.1.id :: rest) := by
  have hsel := isRuleSelected_policyNew model.benchmark profile hp
  refine ⟨getSelectById_policyNew_rule model.benchmark profile hp, fun hfalse => ?_,
    fun htrue => ?_⟩
  · obtain ⟨hrr, outputs, htrace, hcalls, -⟩ := reportRuleResult_spec model p.1 none
      (by decide : XccdfTestResultType.notSelected.toInt ≠ -1) none
      (xccdfPolicyReportCb model.callbacks startSystem (.start p.1) s).2
    have hstartrr := (reportCb_spec model.callbacks startSystem (.start p.1) s).1
    simp only [xccdfPolicyRuleEvaluate, hstart, hsel, hfalse]
    exact ⟨_, outputs, rfl, rfl, hrr.trans (by rw [hstartrr]), htrace, hcalls⟩
  · simp only [xccdfPolicyRuleEvaluate, hstart, hsel, htrue, ne_eq, not_true_eq_false,
      Bool.not_true, Bool.false_eq_true, ↓reduceIte]
    set started := (xccdfPolicyReportCb model.callbacks startSystem (.start p.1) s).2
    generalize hs₁ : ({ started with trace := started.trace ++ [.applicability p.1.id] } :
      XccdfRun σ) = s₁
    have hgrow : ∀ r : Int × XccdfRun σ, s₁.trace <+: r.2.trace →
        ∃ rest, r.2.trace = started.trace ++ .applicability p.1.id :: rest := by
      rintro r ⟨rest, hrest⟩
      exact ⟨rest, by simp [← hrest, ← hs₁]⟩
    apply hgrow
    split
    · exact reportRuleResult_extends_trace model p.1 _ _ _ s₁
    · split
      · exact reportRuleResult_extends_trace model p.1 _ _ _ s₁
      · exact ruleEvaluateCheck_extends_trace model _ env p.1 _ s₁

/-- The model of `oneRuleBenchmark` without callbacks. -/
def oneRuleModel : XccdfPolicyModel Unit :=
  { benchmark := oneRuleBenchmark, policies := [], callbacks := [], cpeDicts := [],
    cpeLangModels := [] }

/-- A Benchmark holding a Group `g` that is not selected, with the Rule `r` inside. -/
def deselectedGroupBenchmark : XccdfBenchmark :=
  { id := "benchmark", platforms := [],
    content := [.group { id := "g", weight := 1, selected := false, platforms := [] }
      [.rule (plainRule "r")]],
    plainTexts := [], schemaVersion := "1.2", cpeList := none, cpeLangModel := none,
    profiles := [], ids_nodup := by decide }

/-- The model of `deselectedGroupBenchmark` without callbacks. -/
def deselectedGroupModel : XccdfPolicyModel Unit :=
  { benchmark := deselectedGroupBenchmark, policies := [], callbacks := [], cpeDicts := [],
    cpeLangModels := [] }

theorem ruleEvaluate_effectiveSelected_deselectedGroup :
    ∃ ruleResult outputs, ruleResult.idref = "r" ∧
      ruleResult.result = XccdfTestResultType.notSelected.toInt ∧
      let r := xccdfPolicyRuleEvaluate deselectedGroupModel
        (xccdfPolicyNew deselectedGroupBenchmark emptyProfile) plainEnvironment (plainRule "r")
        [{ id := "g", weight := 1, selected := false, platforms := [] }] ⟨(), [], []⟩
      r.2.ruleResults = [] ++ [ruleResult] ∧ r.2.trace = [] ++ .append ruleResult :: outputs ∧
        ∀ e ∈ outputs, ∃ ret, e = .call outputSystem (.output ruleResult) ret :=
  have hp : (plainRule "r", [{ id := "g", weight := 1, selected := false, platforms := [] }]) ∈
      deselectedGroupModel.benchmark.rulePaths := by
    simp [deselectedGroupModel, deselectedGroupBenchmark, XccdfBenchmark.rulePaths,
      XccdfItem.listRulePaths, XccdfItem.rulePaths]
  (ruleEvaluate_effectiveSelected plainEnvironment deselectedGroupModel emptyProfile hp
    ⟨(), [], []⟩ rfl).2.1 (by decide)

/-! ## One RuleResult per Rule -/

/-- Every start and output hook answers `0`, whatever the world and the argument. -/
def HooksPass (callbacks : List (XccdfCallback σ)) : Prop :=
  (∀ cb ∈ callbacksBySysname callbacks startSystem, ∀ w rule,
    (cb.callback w (.start rule)).1 = 0) ∧
  ∀ cb ∈ callbacksBySysname callbacks outputSystem, ∀ w ruleResult,
    (cb.callback w (.output ruleResult)).1 = 0

/-- No engine's `query_fn` answers more than one definition name: multi-check expands no
check into several RuleResults. -/
def NamesAtMostOne (callbacks : List (XccdfCallback σ)) : Prop :=
  ∀ cb ∈ callbacks, ∀ queryFn, cb.queryFn = some queryFn →
    ∀ w href names, (queryFn w href).1 = some names → names.length ≤ 1

/-- A step of a Rule's evaluation from `s` that answered `0` after adding one RuleResult of
the Rule. -/
def OneRuleResult (rule : XccdfRule) (s : XccdfRun σ) (r : Int × XccdfRun σ) : Prop :=
  r.1 = 0 ∧ ∃ ruleResult : XccdfRuleResult, ruleResult.idref = rule.id ∧
    r.2.ruleResults = s.ruleResults ++ [ruleResult]

theorem OneRuleResult.of_ruleResults_eq {rule : XccdfRule} {s s' : XccdfRun σ}
    {r : Int × XccdfRun σ} (h : OneRuleResult rule s' r) (hs : s'.ruleResults = s.ruleResults) :
    OneRuleResult rule s r := by
  rwa [OneRuleResult, ← hs]

theorem reportCb_start_of_hooksPass (hhooks : HooksPass model.callbacks) (rule : XccdfRule)
    (s : XccdfRun σ) :
    (xccdfPolicyReportCb model.callbacks startSystem (.start rule) s).1 = 0 ∧
      (xccdfPolicyReportCb model.callbacks startSystem (.start rule) s).2.ruleResults =
        s.ruleResults :=
  have h := callUntil_of_forall_pass 0 (.start rule) _ (fun cb hcb w => hhooks.1 cb hcb w rule) s
  ⟨h.1, h.2.2⟩

theorem reportRuleResult_of_hooksPass (hhooks : HooksPass model.callbacks) (rule : XccdfRule)
    (check : Option XccdfCheck) {res : Int} (hres : res ≠ -1) (message : Option String)
    (s : XccdfRun σ) :
    OneRuleResult rule s (xccdfPolicyReportRuleResult model rule check res message s) := by
  refine ⟨?_, _, rfl, (reportRuleResult_spec model rule check hres message s).1⟩
  simp only [xccdfPolicyReportRuleResult, hres, if_false]
  exact (callUntil_of_forall_pass 0 _ _ (fun cb hcb w => hhooks.2 cb hcb w _) _).1

section OneRuleResult

variable (hhooks : HooksPass model.callbacks) (hengines : NoEngineAbort model.callbacks)
  (hcodes : EngineCodes model.callbacks) (hnames : NamesAtMostOne model.callbacks)
include hhooks

theorem ruleFinish_of_hooksPass (rule : XccdfRule) (check : XccdfCheck) {ret : Int}
    (hret : ret ≠ -1) (message : Option String) (s : XccdfRun σ) :
    OneRuleResult rule s (xccdfPolicyRuleFinish model rule check ret message s) :=
  reportRuleResult_of_hooksPass model hhooks rule _
    (by rwa [Ne, resolveNegate_eq_neg_one_iff]) _ s

include hengines hcodes in
/-- A multi-check on one name gives one RuleResult. -/
theorem ruleMultiCheckLoop_one (rule : XccdfRule) (check : XccdfCheck)
    (content : XccdfCheckContentRef) (name : String) (s : XccdfRun σ) :
    OneRuleResult rule s (ruleMultiCheckLoop model policy env rule check content name [] s) := by
  have hne := checkEvaluate_ne_neg_one model policy env hengines hcodes none
    (check.injectContentRef content (some name)) s
  have hrr := (checkEvaluate_onlyEngineCalls model policy env none
    (check.injectContentRef content (some name)) s).1
  have h := (reportRuleResult_of_hooksPass model hhooks rule
    (some (xccdfPolicyCheckEvaluate model policy env none
      (check.injectContentRef content (some name)) s).2.1) hne none _).of_ruleResults_eq hrr
  unfold ruleMultiCheckLoop
  simp only [hne, if_false, h.1, ne_eq, not_true_eq_false]
  exact h

include hengines in
theorem ruleEvalContent_one (rule : XccdfRule) (check : XccdfCheck) (system : String)
    (bindings : List XccdfValueBinding) (content : XccdfCheckContentRef)
    {next : Option String → Int → XccdfRun σ → Int × XccdfRun σ}
    (hnext : ∀ message s,
      OneRuleResult rule s (next message XccdfTestResultType.notChecked.toInt s))
    (message : Option String) (s : XccdfRun σ) :
    OneRuleResult rule s
      (ruleEvalContent model rule check system bindings content next message s) := by
  have hne : (xccdfPolicyEvaluateCb model.callbacks system content.name content.href none bindings
      s).1 ≠ -1 :=
    evaluateCb_fst hengines (by decide) system content.name content.href none bindings s
  have hrr := (evaluateCb_engineSteps model.callbacks system content.name content.href none
    bindings s).1
  unfold ruleEvalContent
  dsimp only
  split
  · exact (ruleFinish_of_hooksPass model hhooks rule _ hne message _).of_ruleResults_eq hrr
  · rename_i hnc
    rw [not_not.mp hnc]
    exact (hnext _ _).of_ruleResults_eq hrr

include hengines hcodes hnames in
/-- The single-check path gives one RuleResult, unless it reports an uninitialised `-1`. -/
theorem ruleContentRefsLoop_one (rule : XccdfRule) (check : XccdfCheck) (system : String)
    (multicheck : Bool) (bindings : List XccdfValueBinding) :
    ∀ (contents : List XccdfCheckContentRef) (message : Option String) (ret : Int)
      (s : XccdfRun σ),
      let r := ruleContentRefsLoop model policy env rule check system multicheck bindings contents
        message ret s
      OneRuleResult rule s r ∨ (r.1 = -1 ∧ ret = -1)
  | [], message, ret, s => by
    by_cases hret : ret = -1
    · right
      simp [ruleContentRefsLoop, xccdfPolicyRuleFinish, xccdfPolicyReportRuleResult, hret]
    · exact .inl (ruleFinish_of_hooksPass model hhooks rule check hret message s)
  | content :: contents, _, _, s => by
    have heval := ruleEvalContent_one model hhooks hengines rule check system bindings content
      (fun message s => (ruleContentRefsLoop_one rule check system multicheck bindings contents
        message XccdfTestResultType.notChecked.toInt s).resolve_right
          (by simp [XccdfTestResultType.toInt]))
    obtain ⟨hqrr, -, hqnames⟩ := getNamesforHrefLoop_spec content.href
      (callbacksBySysname model.callbacks system) s
    left
    unfold ruleContentRefsLoop
    split
    · dsimp only
      split
      · exact (reportRuleResult_of_hooksPass model hhooks rule _ (by decide) _ _).of_ruleResults_eq
          hqrr
      · rename_i name names hq
        obtain ⟨cb, hcb, queryFn, w, hfn, hanswer⟩ := hqnames _ hq
        have hlen := hnames cb (List.mem_of_mem_filter hcb) queryFn hfn w _ _ hanswer
        obtain rfl : names = [] := List.eq_nil_of_length_eq_zero (by simpa using hlen)
        exact (ruleMultiCheckLoop_one model policy env hhooks hengines hcodes rule check content
          name _).of_ruleResults_eq hqrr
      · exact (heval _ _).of_ruleResults_eq hqrr
    · exact heval _ _

include hengines hcodes hnames in
theorem ruleEvaluateCheck_one (rule : XccdfRule) (check : XccdfCheck) (s : XccdfRun σ) :
    let r := xccdfPolicyRuleEvaluateCheck model policy env rule check s
    OneRuleResult rule s r ∨ (r.1 = -1 ∧ env.uninitialisedRet = -1) := by
  unfold xccdfPolicyRuleEvaluateCheck
  split
  · rename_i oper negate children
    have hne := checkEvaluate_ne_neg_one model policy env hengines hcodes none
      (.complex oper negate children) s
    exact .inl ((reportRuleResult_of_hooksPass model hhooks rule
      (some (xccdfPolicyCheckEvaluate model policy env none (.complex oper negate children) s).2.1)
      hne none _).of_ruleResults_eq (checkEvaluate_onlyEngineCalls model policy env none _ s).1)
  · split
    · exact .inl (reportRuleResult_of_hooksPass model hhooks rule _ (by decide) _ s)
    · exact ruleContentRefsLoop_one model policy env hhooks hengines hcodes hnames rule
        _ _ _ _ _ _ _ s

include hengines hcodes hnames in
/-- Under passing hooks, engines that answer non-negative codes and no multi-check expansion, a
Rule's evaluation answers `0` after adding exactly one RuleResult of the Rule, unless it reports
an uninitialised `-1`. -/
theorem ruleEvaluate_one (rule : XccdfRule) (path : List XccdfGroup) (s : XccdfRun σ) :
    let r := xccdfPolicyRuleEvaluate model policy env rule path s
    OneRuleResult rule s r ∨ (r.1 = -1 ∧ env.uninitialisedRet = -1) := by
  obtain ⟨hstart, hstartrr⟩ := reportCb_start_of_hooksPass model hhooks rule s
  simp only [xccdfPolicyRuleEvaluate, hstart, ne_eq, not_true_eq_false, ↓reduceIte]
  generalize (xccdfPolicyReportCb model.callbacks startSystem (.start rule) s).2 = s₁
    at hstartrr ⊢
  split
  · exact .inl ((reportRuleResult_of_hooksPass model hhooks rule _ (by decide) _ _)
      |>.of_ruleResults_eq hstartrr)
  · generalize hs₂ : ({ s₁ with trace := s₁.trace ++ [.applicability rule.id] } : XccdfRun σ) = s₂
    have hs₂rr : s₂.ruleResults = s.ruleResults := by rw [← hs₂]; exact hstartrr
    split
    · exact .inl ((reportRuleResult_of_hooksPass model hhooks rule _ (by decide) _ _)
        |>.of_ruleResults_eq hs₂rr)
    · split
      · exact .inl ((reportRuleResult_of_hooksPass model hhooks rule _ (by decide) _
          _).of_ruleResults_eq hs₂rr)
      · exact (ruleEvaluateCheck_one model policy env hhooks hengines hcodes hnames rule _ s₂)
          |>.imp_left (·.of_ruleResults_eq hs₂rr)

end OneRuleResult

/-! ## Multi-check -/

/-- A call of a start hook. -/
def XccdfEvent.isStart : XccdfEvent → Bool
  | .call _ (.start _) _ => true
  | _ => false

/-- A call of an output hook. -/
def XccdfEvent.isOutput : XccdfEvent → Bool
  | .call _ (.output _) _ => true
  | _ => false

/-- One call of each start hook, in registration order, on `rule`, each answering `0`. -/
def startRound (callbacks : List (XccdfCallback σ)) (rule : XccdfRule) : List XccdfEvent :=
  (callbacksBySysname callbacks startSystem).map (.call ·.system (.start rule) 0)

/-- One call of each output hook, in registration order, on `ruleResult`, each answering
`0`. -/
def outputRound (callbacks : List (XccdfCallback σ)) (ruleResult : XccdfRuleResult) :
    List XccdfEvent :=
  (callbacksBySysname callbacks outputSystem).map (.call ·.system (.output ruleResult) 0)

@[simp]
theorem filter_isStart_startRound (callbacks : List (XccdfCallback σ)) (rule : XccdfRule) :
    (startRound callbacks rule).filter XccdfEvent.isStart = startRound callbacks rule := by
  simp [startRound, List.filter_map, Function.comp_def, XccdfEvent.isStart]

@[simp]
theorem filter_isOutput_startRound (callbacks : List (XccdfCallback σ)) (rule : XccdfRule) :
    (startRound callbacks rule).filter XccdfEvent.isOutput = [] := by
  simp [startRound, List.filter_map, Function.comp_def, XccdfEvent.isOutput]

@[simp]
theorem filter_isStart_outputRound (callbacks : List (XccdfCallback σ))
    (ruleResult : XccdfRuleResult) :
    (outputRound callbacks ruleResult).filter XccdfEvent.isStart = [] := by
  simp [outputRound, List.filter_map, Function.comp_def, XccdfEvent.isStart]

@[simp]
theorem filter_isOutput_outputRound (callbacks : List (XccdfCallback σ))
    (ruleResult : XccdfRuleResult) :
    (outputRound callbacks ruleResult).filter XccdfEvent.isOutput =
      outputRound callbacks ruleResult := by
  simp [outputRound, List.filter_map, Function.comp_def, XccdfEvent.isOutput]

section HooksPass

variable (hhooks : HooksPass model.callbacks)
include hhooks

variable (hengines : NoEngineAbort model.callbacks)
include hengines

end HooksPass

/-- A selected Rule without platforms whose only check, of system `sys`, has no
check-content-ref (its content would be inline `check-content`). -/
def ruleWithoutContentRef : XccdfRule :=
  { id := "rule", weight := 1, selected := true, platforms := [], role := 1, severity := 1,
    checks := [.simple "sys" none false false [] []] }

/-- A Benchmark holding `ruleWithoutContentRef` only. -/
def benchmarkWithoutContentRef : XccdfBenchmark :=
  { id := "benchmark", platforms := [], content := [.rule ruleWithoutContentRef],
    plainTexts := [], schemaVersion := "1.2", cpeList := none, cpeLangModel := none,
    profiles := [], ids_nodup := by decide }

/-- The model of `benchmarkWithoutContentRef` with the engine `errorPassEngine` of `sys` and
no hook. -/
def modelWithoutContentRef : XccdfPolicyModel Unit :=
  { benchmark := benchmarkWithoutContentRef, policies := [], callbacks := [errorPassEngine],
    cpeDicts := [], cpeLangModels := [] }

/-- A simple check without content-ref: `xccdf_policy_check_evaluate` answers `0`, its
"no result yet", and the single-check path of `_xccdf_policy_rule_evaluate` reports whatever
its uninitialised `ret` holds (nothing at all when that is `-1`); neither answers NotChecked. -/
theorem checkEvaluate_without_contentRef (model : XccdfPolicyModel σ) (system : String)
    (selector : Option String) (negate multicheck : Bool) (s : XccdfRun σ)
    (s' : XccdfRun Unit) :
    (xccdfPolicyCheckEvaluate model policy env none
        (.simple system selector negate multicheck [] []) s).1 = 0 ∧
    ((xccdfPolicyRuleEvaluate modelWithoutContentRef
        (xccdfPolicyNew benchmarkWithoutContentRef emptyProfile) env ruleWithoutContentRef []
        s').2.ruleResults.map (·.result)) =
      s'.ruleResults.map (·.result) ++
        if env.uninitialisedRet = -1 then [] else [env.uninitialisedRet] := by
  constructor
  · cases negate <;> simp [xccdfPolicyCheckEvaluate, xccdfPolicyCheckGetValueBindings,
      checkContentRefsLoop, resolveNegate, XccdfTestResultType.toInt]
  · split_ifs with hret <;>
    simp [xccdfPolicyRuleEvaluate, xccdfPolicyIsRuleSelected, xccdfPolicyGetSelectById,
      xccdfPolicyNew, XccdfItem.xccdfPolicyResolveContent, xccdfPolicyResolveItem, findSelect,
      oscapHtableAdd, oscapHtableGet, XccdfTestResultType.toInt, XccdfCheck.isComplex,
      XccdfCheck.negate, benchmarkWithoutContentRef, ruleWithoutContentRef, emptyProfile,
      modelWithoutContentRef, xccdfPolicyReportCb, callbacksBySysname, errorPassEngine,
      callUntil, xccdfPolicyModelItemIsApplicable, platformChain, platformsApplicable,
      xccdfPolicyRuleGetApplicableCheck, XccdfRule.checksFiltered,
      xccdfPolicyGetRefineRulesByRule, firstMatch, xccdfPolicyIsEngineRegistered,
      xccdfPolicyCheckGetValueBindings, xccdfPolicyRuleEvaluateCheck, ruleContentRefsLoop,
      xccdfPolicyRuleFinish,
      xccdfPolicyReportRuleResult, xccdfRuleResultNewFromRule, hret, startSystem, outputSystem]

end Xccdf
