import XccdfPolicy.Value

/-!
# Checking engines, hooks and check evaluation

The policy model keeps one list of callbacks, `model->callbacks`: checking engines registered
for a system URI and the start and output hooks registered under two reserved URIs. A callback
is modelled as a function of a world `σ` it may read and update, so that every statement here
holds for every stateful engine and hook. A run (`XccdfRun`) threads that world, the trace of
the calls the policy layer makes, and the RuleResults of the TestResult being filled.

* `callUntil` is the loop shared by `xccdf_policy_evaluate_cb` (engines, until one answers
  other than NotChecked) and `xccdf_policy_report_cb` (hooks, until one answers non-zero).
* `xccdfPolicyCheckEvaluate` is `xccdf_policy_check_evaluate` over a check tree.
* `callUntil_spec`: a callback loop records one call per callback it reaches and stops the
  evaluation (`XccdfEvent.abortCode`) at its last call at most.
* `checkEvaluate_onlyEngineCalls`: evaluating a check only calls engines.
* `_resolve_operation` reads a negative code across its table's rows or before it
  (`XccdfEnvironment.resultTableBefore`). When every engine answers `-1` or a non-negative
  code (`EngineCodes`), it reads inside its tables, and `checkEvaluate_engineSteps`: a check
  evaluation ends on an engine's `-1` exactly when it returns `-1`; `checkEvaluate_ne_neg_one`:
  it never returns `-1` when no engine does either.
* `checkEvaluate_deMorgan`: under `EngineCodes`, a complex check and its De Morgan dual (the
  other operator, every negate flag of the check and its children flipped) give the same
  result and the same run.
-/

namespace Xccdf

/-! ## Callbacks and runs -/

/-- What the policy layer hands a registered callback. -/
inductive XccdfCallbackArg where
  /-- An engine call: rule id, definition name, href and value bindings. -/
  | eval (ruleId : Option String) (content : Option String) (href : String)
      (bindings : List XccdfValueBinding)
  /-- A start hook call on the Rule about to be evaluated. -/
  | start (rule : XccdfRule)
  /-- An output hook call on the RuleResult just added. -/
  | output (ruleResult : XccdfRuleResult)

/-- An entry of `model->callbacks` (`callback_t`, or `callback_out_t` for a hook) over the
world `σ`: its system URI, its function, and the optional `query_fn` of an engine. -/
structure XccdfCallback (σ : Type) where
  system : String
  callback : σ → XccdfCallbackArg → Int × σ
  queryFn : Option (σ → String → Option (List String) × σ)

/-- What the policy layer does in a run, in the order it does it: calls a callback, asks an
engine for the names in an href, evaluates a Rule's applicability, or adds a RuleResult. -/
inductive XccdfEvent where
  /-- A callback of system `system` was called with `arg` and returned `ret`. -/
  | call (system : String) (arg : XccdfCallbackArg) (ret : Int)
  /-- The `query_fn` of an engine of `system` was asked for the names in `href`. -/
  | query (system : String) (href : String)
  /-- The applicability of a Rule was evaluated. -/
  | applicability (ruleId : String)
  /-- A RuleResult was added to the TestResult. -/
  | append (ruleResult : XccdfRuleResult)

/-- The state of a policy evaluation: the callbacks' world, the trace so far, and the
RuleResults of the TestResult being filled. -/
structure XccdfRun (σ : Type) where
  world : σ
  trace : List XccdfEvent
  ruleResults : List XccdfRuleResult

variable {σ : Type}

/-- Calls one callback, recording the call. -/
def XccdfRun.call (s : XccdfRun σ) (cb : XccdfCallback σ) (arg : XccdfCallbackArg) :
    Int × XccdfRun σ :=
  let r := cb.callback s.world arg
  (r.1, { s with world := r.2, trace := s.trace ++ [.call cb.system arg r.1] })

/-- `xccdf_policy_model`: the Benchmark, the policies, the callbacks in registration order,
and the external CPE dictionaries and language models. The CPE/OVAL session cache is not
modelled here: the CPE matching it serves is taken as given (`XccdfEnvironment`). -/
structure XccdfPolicyModel (σ : Type) where
  benchmark : XccdfBenchmark
  policies : List XccdfPolicy
  callbacks : List (XccdfCallback σ)
  cpeDicts : List CpeDictModel
  cpeLangModels : List CpeLangModel

/-- What the policy layer takes from outside `xccdf_policy.c`, taken as given: the CPE
library's matchers, `strverscmp`, the value `_xccdf_policy_rule_evaluate` reads from its
uninitialised `ret` when a check has no content-ref, and the `int`s C reads before the tables of
`_resolve_operation`. -/
structure XccdfEnvironment where
  /-- `cpe_name_check`: the string is a well-formed CPE name. -/
  cpeNameCheck : String → Bool
  /-- `cpe_platform_applicable_lang_model` on a platform id, given the test of a CPE name it
  calls back, `_xccdf_policy_cpe_dict_cb`. -/
  cpePlatformApplicableLangModel : String → CpeLangModel → (String → Bool) → Bool
  /-- `cpe_name_applicable_dict` on a CPE name. -/
  cpeNameApplicableDict : String → CpeDictModel → Bool
  /-- `strverscmp`. -/
  strverscmp : String → String → Int
  /-- The indeterminate value of `int ret;` in `_xccdf_policy_rule_evaluate`. -/
  uninitialisedRet : Int
  /-- The `int` at a negative offset from the start of `RESULT_TABLE_AND` or
  `RESULT_TABLE_OR`. -/
  resultTableBefore : XccdfBoolOperator → Int → Int

/-- `_xccdf_policy_get_callbacks_by_sysname`: the callbacks of a system, in registration
order. -/
def callbacksBySysname (callbacks : List (XccdfCallback σ)) (sysname : String) :
    List (XccdfCallback σ) :=
  callbacks.filter (·.system = sysname)

/-- Calls `callbacks` in order with `arg` until one returns something other than `pass`, and
returns the last answer (`pass` when every callback answered `pass`, or there is none). -/
def callUntil (pass : Int) (arg : XccdfCallbackArg) :
    List (XccdfCallback σ) → XccdfRun σ → Int × XccdfRun σ
  | [], s => (pass, s)
  | cb :: cbs, s =>
    let r := s.call cb arg
    if r.1 = pass then callUntil pass arg cbs r.2 else r

/-- `xccdf_policy_evaluate_cb`: the engines of `sysname` until one answers other than
NotChecked. -/
def xccdfPolicyEvaluateCb (callbacks : List (XccdfCallback σ)) (sysname : String)
    (content : Option String) (href : String) (ruleId : Option String)
    (bindings : List XccdfValueBinding) : XccdfRun σ → Int × XccdfRun σ :=
  callUntil XccdfTestResultType.notChecked.toInt (.eval ruleId content href bindings)
    (callbacksBySysname callbacks sysname)

/-- `xccdf_policy_report_cb`: the hooks of `sysname` until one answers non-zero. -/
def xccdfPolicyReportCb (callbacks : List (XccdfCallback σ)) (sysname : String)
    (arg : XccdfCallbackArg) : XccdfRun σ → Int × XccdfRun σ :=
  callUntil 0 arg (callbacksBySysname callbacks sysname)

/-- The loop of `_xccdf_policy_get_namesfor_href` over the callbacks of a system: skip those
without `query_fn`, stop at the first non-`NULL` answer. -/
def getNamesforHrefLoop (href : String) :
    List (XccdfCallback σ) → XccdfRun σ → Option (List String) × XccdfRun σ
  | [], s => (none, s)
  | cb :: cbs, s =>
    match cb.queryFn with
    | none => getNamesforHrefLoop href cbs s
    | some queryFn =>
      let r := queryFn s.world href
      let s := { s with world := r.2, trace := s.trace ++ [.query cb.system href] }
      match r.1 with
      | some names => (some names, s)
      | none => getNamesforHrefLoop href cbs s

/-- `_xccdf_policy_get_namesfor_href(policy, sysname, href)`. -/
def xccdfPolicyGetNamesforHref (callbacks : List (XccdfCallback σ)) (sysname href : String) :
    XccdfRun σ → Option (List String) × XccdfRun σ :=
  getNamesforHrefLoop href (callbacksBySysname callbacks sysname)

/-- The reserved system of start hooks. -/
def startSystem : String := "urn:xccdf:system:callback:start"

/-- The reserved system of output hooks. -/
def outputSystem : String := "urn:xccdf:system:callback:output"

/-! ## What stops an evaluation -/

/-- The code with which a callback's answer stops the evaluation: an engine stops it only with
`-1`, a hook with any non-zero answer; `0` means it goes on. -/
def XccdfCallbackArg.abortCode : XccdfCallbackArg → Int → Int
  | .eval .., ret => if ret = -1 then -1 else 0
  | _, ret => ret

@[simp]
theorem XccdfCallbackArg.abortCode_zero (arg : XccdfCallbackArg) : arg.abortCode 0 = 0 := by
  cases arg <;> rfl

/-- The code with which an event stops the evaluation, `0` for events other than calls. -/
def XccdfEvent.abortCode : XccdfEvent → Int
  | .call _ arg ret => arg.abortCode ret
  | _ => 0

/-- `events` stop the evaluation with `code` at their last event and not before; with
`code = 0` they do not stop it. -/
def AbortsWith (code : Int) (events : List XccdfEvent) : Prop :=
  (∀ e ∈ events.dropLast, e.abortCode = 0) ∧
    (events.getLast?.map XccdfEvent.abortCode).getD 0 = code

theorem abortsWith_zero_iff {events : List XccdfEvent} :
    AbortsWith 0 events ↔ ∀ e ∈ events, e.abortCode = 0 := by
  rcases List.eq_nil_or_concat events with rfl | ⟨pre, e, rfl⟩
  · simp [AbortsWith]
  · simp [AbortsWith, or_imp, forall_and]

theorem abortsWith_singleton (e : XccdfEvent) : AbortsWith e.abortCode [e] := by
  simp [AbortsWith]

/-- Events that do not stop the evaluation, followed by events that stop it with `code`. -/
theorem AbortsWith.append {code : Int} {pre events : List XccdfEvent} (hpre : AbortsWith 0 pre)
    (h : AbortsWith code events) : AbortsWith code (pre ++ events) := by
  rcases List.eq_nil_or_concat events with rfl | ⟨evs, e, rfl⟩
  · obtain rfl : 0 = code := by simpa [AbortsWith] using h.2
    simpa using hpre
  · rw [abortsWith_zero_iff] at hpre
    rw [List.concat_eq_append] at h ⊢
    refine ⟨fun x hx => ?_, by simpa [AbortsWith] using h.2⟩
    rw [← List.append_assoc, List.dropLast_concat, List.mem_append] at hx
    exact hx.elim (hpre x) fun hx => h.1 x (by simpa using hx)

/-! ## Callback loops -/

@[simp]
theorem XccdfRun.call_fst (s : XccdfRun σ) (cb : XccdfCallback σ) (arg : XccdfCallbackArg) :
    (s.call cb arg).1 = (cb.callback s.world arg).1 := rfl

@[simp]
theorem XccdfRun.call_trace (s : XccdfRun σ) (cb : XccdfCallback σ) (arg : XccdfCallbackArg) :
    (s.call cb arg).2.trace = s.trace ++ [.call cb.system arg (cb.callback s.world arg).1] :=
  rfl

@[simp]
theorem XccdfRun.call_ruleResults (s : XccdfRun σ) (cb : XccdfCallback σ)
    (arg : XccdfCallbackArg) : (s.call cb arg).2.ruleResults = s.ruleResults := rfl

/-- A callback loop whose passing answer goes on records one call with `arg` per callback it
reaches, adds no RuleResult, and stops the evaluation with its answer's code at its last call
at most. -/
theorem callUntil_spec (pass : Int) (arg : XccdfCallbackArg) (hpass : arg.abortCode pass = 0) :
    ∀ (cbs : List (XccdfCallback σ)) (s : XccdfRun σ),
      (callUntil pass arg cbs s).2.ruleResults = s.ruleResults ∧
      ∃ events, (callUntil pass arg cbs s).2.trace = s.trace ++ events ∧
        (∀ e ∈ events, ∃ cb ∈ cbs, ∃ ret, e = .call cb.system arg ret) ∧
        AbortsWith (arg.abortCode (callUntil pass arg cbs s).1) events
  | [], s => ⟨rfl, [], by simp [callUntil, hpass, AbortsWith]⟩
  | cb :: cbs, s => by
    by_cases h : (cb.callback s.world arg).1 = pass
    · obtain ⟨hrr, events, htrace, hcalls, habort⟩ :=
        callUntil_spec pass arg hpass cbs (s.call cb arg).2
      refine ⟨by simp [callUntil, h, hrr], .call cb.system arg pass :: events,
        by simp [callUntil, h, htrace], ?_, ?_⟩
      · simp only [List.forall_mem_cons]
        refine ⟨⟨cb, List.mem_cons_self _ _, _, rfl⟩, fun e he => ?_⟩
        obtain ⟨cb', hcb', hret⟩ := hcalls e he
        exact ⟨cb', List.mem_cons_of_mem _ hcb', hret⟩
      · have hfirst : AbortsWith 0 [.call cb.system arg pass] := by
          simpa [XccdfEvent.abortCode, hpass] using abortsWith_singleton (.call cb.system arg pass)
        simpa [callUntil, h] using hfirst.append habort
    · refine ⟨by simp [callUntil, h], [.call cb.system arg (cb.callback s.world arg).1],
        by simp [callUntil, h], by simp, ?_⟩
      simpa [callUntil, h] using
        abortsWith_singleton (.call cb.system arg (cb.callback s.world arg).1)

/-- `callUntil_spec` for the hooks of a system. -/
theorem reportCb_spec (callbacks : List (XccdfCallback σ)) (sysname : String)
    (arg : XccdfCallbackArg) (s : XccdfRun σ) :
    (xccdfPolicyReportCb callbacks sysname arg s).2.ruleResults = s.ruleResults ∧
      ∃ events, (xccdfPolicyReportCb callbacks sysname arg s).2.trace = s.trace ++ events ∧
        (∀ e ∈ events, ∃ ret, e = .call sysname arg ret) ∧
        AbortsWith (arg.abortCode (xccdfPolicyReportCb callbacks sysname arg s).1) events := by
  obtain ⟨hrr, events, htrace, hcalls, habort⟩ :=
    callUntil_spec 0 arg arg.abortCode_zero (callbacksBySysname callbacks sysname) s
  refine ⟨hrr, events, htrace, fun e he => ?_, habort⟩
  obtain ⟨cb, hcb, ret, rfl⟩ := hcalls e he
  exact ⟨ret, by rw [of_decide_eq_true (List.mem_filter.mp hcb).2]⟩

theorem reportCb_extends_trace (callbacks : List (XccdfCallback σ)) (sysname : String)
    (arg : XccdfCallbackArg) (s : XccdfRun σ) :
    s.trace <+: (xccdfPolicyReportCb callbacks sysname arg s).2.trace := by
  obtain ⟨-, events, htrace, -⟩ := reportCb_spec callbacks sysname arg s
  rw [htrace]
  exact List.prefix_append _ _

/-- The names loop records one query per engine with a `query_fn` it reaches, adds no
RuleResult, and answers names only some engine's `query_fn` gave. -/
theorem getNamesforHrefLoop_spec (href : String) :
    ∀ (cbs : List (XccdfCallback σ)) (s : XccdfRun σ),
      (getNamesforHrefLoop href cbs s).2.ruleResults = s.ruleResults ∧
      (∃ events, (getNamesforHrefLoop href cbs s).2.trace = s.trace ++ events ∧
        ∀ e ∈ events, ∃ cb ∈ cbs, e = .query cb.system href) ∧
      ∀ names, (getNamesforHrefLoop href cbs s).1 = some names →
        ∃ cb ∈ cbs, ∃ queryFn w, cb.queryFn = some queryFn ∧ (queryFn w href).1 = some names
  | [], s =>
    ⟨rfl, ⟨[], by simp [getNamesforHrefLoop]⟩, fun _ h => by simp [getNamesforHrefLoop] at h⟩
  | cb :: cbs, s => by
    have lift : ∀ {P : XccdfCallback σ → Prop}, (∃ cb' ∈ cbs, P cb') → ∃ cb' ∈ cb :: cbs, P cb' :=
      fun ⟨cb', hcb', hP⟩ => ⟨cb', List.mem_cons_of_mem _ hcb', hP⟩
    unfold getNamesforHrefLoop
    split
    · obtain ⟨h₁, ⟨events, h₂, h₃⟩, h₄⟩ := getNamesforHrefLoop_spec href cbs s
      exact ⟨h₁, ⟨events, h₂, fun e he => lift (h₃ e he)⟩, fun names h => lift (h₄ names h)⟩
    · rename_i queryFn hq
      dsimp only
      split
      · rename_i names hnames
        refine ⟨rfl, ⟨[.query cb.system href], rfl, by simp⟩, fun names' h => ?_⟩
        obtain rfl : names = names' := Option.some.inj h
        exact ⟨cb, List.mem_cons_self _ _, queryFn, s.world, hq, hnames⟩
      · obtain ⟨h₁, ⟨events, h₂, h₃⟩, h₄⟩ := getNamesforHrefLoop_spec href cbs _
        refine ⟨h₁, ⟨.query cb.system href :: events, by simp [h₂], ?_⟩,
          fun names h => lift (h₄ names h)⟩
        simp only [List.forall_mem_cons]
        exact ⟨⟨cb, List.mem_cons_self _ _, rfl⟩, fun e he => lift (h₃ e he)⟩

/-- When every callback answers `pass` in every world, the loop calls each of them once, in
order, and answers `pass`. -/
theorem callUntil_of_forall_pass (pass : Int) (arg : XccdfCallbackArg) :
    ∀ (cbs : List (XccdfCallback σ)), (∀ cb ∈ cbs, ∀ w, (cb.callback w arg).1 = pass) →
      ∀ s : XccdfRun σ, (callUntil pass arg cbs s).1 = pass ∧
        (callUntil pass arg cbs s).2.trace = s.trace ++ cbs.map (.call ·.system arg pass) ∧
        (callUntil pass arg cbs s).2.ruleResults = s.ruleResults
  | [], _, s => by simp [callUntil]
  | cb :: cbs, h, s => by
    have hcb := h cb (List.mem_cons_self _ _) s.world
    obtain ⟨h₁, h₂, h₃⟩ := callUntil_of_forall_pass pass arg cbs
      (fun cb' hcb' => h cb' (List.mem_cons_of_mem _ hcb')) (s.call cb arg).2
    simp [callUntil, hcb, h₁, h₂, h₃]

/-- The loop answers `pass` or the answer of one of its callbacks: a property of all of them
holds of its answer. -/
theorem callUntil_fst_of_forall (P : Int → Prop) (pass : Int) (arg : XccdfCallbackArg)
    (hpass : P pass) :
    ∀ (cbs : List (XccdfCallback σ)), (∀ cb ∈ cbs, ∀ w, P (cb.callback w arg).1) →
      ∀ s : XccdfRun σ, P (callUntil pass arg cbs s).1
  | [], _, _ => hpass
  | cb :: cbs, h, s => by
    simp only [callUntil]
    split
    · exact callUntil_fst_of_forall P pass arg hpass cbs
        (fun cb' hcb' => h cb' (List.mem_cons_of_mem _ hcb')) _
    · exact h cb (List.mem_cons_self _ _) s.world

/-! ## `xccdf_policy_check_evaluate` -/

/-- What an engine may answer: every engine of the registry answers a code satisfying `P`,
whatever the world and the call. -/
def EngineAnswers (P : Int → Prop) (callbacks : List (XccdfCallback σ)) : Prop :=
  ∀ cb ∈ callbacks, ∀ w ruleId content href bindings,
    P (cb.callback w (.eval ruleId content href bindings)).1

/-- No engine of the registry ever answers `-1`. -/
def NoEngineAbort (callbacks : List (XccdfCallback σ)) : Prop :=
  EngineAnswers (· ≠ -1) callbacks

/-- Every engine of the registry answers `-1` or a non-negative code, the codes that
`_resolve_operation` reads inside its tables. -/
def EngineCodes (callbacks : List (XccdfCallback σ)) : Prop :=
  EngineAnswers (-1 ≤ ·) callbacks

/-- An engine loop answers NotChecked or the answer of one of its engines. -/
theorem evaluateCb_fst {P : Int → Prop} {callbacks : List (XccdfCallback σ)}
    (hanswers : EngineAnswers P callbacks) (hnc : P XccdfTestResultType.notChecked.toInt)
    (sysname : String) (content : Option String) (href : String) (ruleId : Option String)
    (bindings : List XccdfValueBinding) (s : XccdfRun σ) :
    P (xccdfPolicyEvaluateCb callbacks sysname content href ruleId bindings s).1 :=
  callUntil_fst_of_forall P _ _ hnc _
    (fun cb hcb w => hanswers cb (List.mem_of_mem_filter hcb) w _ _ _ _) s

section CheckEvaluate

variable (model : XccdfPolicyModel σ) (policy : XccdfPolicy) (env : XccdfEnvironment)

/-- The content-ref loop of `xccdf_policy_check_evaluate`: each content-ref in turn through
the engines of the system until one answers other than NotChecked. Returns the last answer
(`ret` untouched when there is no content-ref) and the content-ref that gave it. -/
def checkContentRefsLoop (system : String) (ruleId : Option String)
    (bindings : List XccdfValueBinding) :
    List XccdfCheckContentRef → Int → XccdfRun σ →
      Int × Option XccdfCheckContentRef × XccdfRun σ
  | [], ret, s => (ret, none, s)
  | content :: contents, _, s =>
    let r := xccdfPolicyEvaluateCb model.callbacks system content.name content.href ruleId
      bindings s
    if r.1 ≠ XccdfTestResultType.notChecked.toInt then (r.1, some content, r.2)
    else checkContentRefsLoop system ruleId bindings contents r.1 r.2

/-- The check after a content-ref loop: pinned to the content-ref that answered. -/
def XccdfCheck.pin (check : XccdfCheck) : Option XccdfCheckContentRef → XccdfCheck
  | some content => check.injectContentRef content none
  | none => check

mutual
/-- `xccdf_policy_check_evaluate(policy, check, rule_id)`: the result, the check as the
evaluation leaves it (evaluated simple checks pinned to the content-ref that answered), and
the run. A complex check folds its children's results with `_resolve_operation`, a `0` result
counting as no result yet, and gives up on `-1`; a simple check answers Unknown when its value
bindings cannot be built. Negation is applied once, at the end. -/
def xccdfPolicyCheckEvaluate (ruleId : Option String) :
    XccdfCheck → XccdfRun σ → Int × XccdfCheck × XccdfRun σ
  | .complex oper negate children, s =>
    let r := XccdfCheck.evaluateChildren ruleId oper children 0 s
    if r.1 = -1 then (-1, .complex oper negate r.2.1, r.2.2)
    else (resolveNegate negate r.1, .complex oper negate r.2.1, r.2.2)
  | check@(.simple system _ negate _ contents exports), s =>
    match xccdfPolicyCheckGetValueBindings model.benchmark policy.profile exports with
    | none => (XccdfTestResultType.unknown.toInt, check, s)
    | some bindings =>
      let r := checkContentRefsLoop model system ruleId bindings contents 0 s
      (resolveNegate negate r.1, check.pin r.2.1, r.2.2)

/-- The child loop of `xccdf_policy_check_evaluate`: `ret` accumulates the children's results
so far, and the evaluated children replace the originals. -/
def XccdfCheck.evaluateChildren (ruleId : Option String) (oper : XccdfBoolOperator) :
    List XccdfCheck → Int → XccdfRun σ → Int × List XccdfCheck × XccdfRun σ
  | [], ret, s => (ret, [], s)
  | child :: children, ret, s =>
    let r := xccdfPolicyCheckEvaluate ruleId child s
    if r.1 = -1 then (-1, r.2.1 :: children, r.2.2)
    else
      let rest := XccdfCheck.evaluateChildren ruleId oper children
        (if ret = 0 then r.1 else resolveOperation env.resultTableBefore ret r.1 oper) r.2.2
      (rest.1, r.2.1 :: rest.2.1, rest.2.2)
end

/-! ### What a check evaluation does to the run -/

/-- An engine call. -/
def XccdfEvent.isEval : XccdfEvent → Bool
  | .call _ (.eval ..) _ => true
  | _ => false

/-- `s'` continues `s` with engine calls only and adds no RuleResult. -/
def OnlyEngineCalls (s s' : XccdfRun σ) : Prop :=
  s'.ruleResults = s.ruleResults ∧ ∃ events, s'.trace = s.trace ++ events ∧ ∀ e ∈ events, e.isEval

/-- `s'` continues `s` with engine calls only and no RuleResult, and stops the evaluation,
at its last call, exactly when `ret` is `-1`. -/
def EngineSteps (ret : Int) (s s' : XccdfRun σ) : Prop :=
  s'.ruleResults = s.ruleResults ∧ ∃ events, s'.trace = s.trace ++ events ∧
    (∀ e ∈ events, e.isEval) ∧ AbortsWith (if ret = -1 then -1 else 0) events

theorem OnlyEngineCalls.refl (s : XccdfRun σ) : OnlyEngineCalls s s :=
  ⟨rfl, [], by simp⟩

theorem OnlyEngineCalls.trans {s₁ s₂ s₃ : XccdfRun σ} (h₁ : OnlyEngineCalls s₁ s₂)
    (h₂ : OnlyEngineCalls s₂ s₃) : OnlyEngineCalls s₁ s₃ := by
  obtain ⟨hrr₁, ev₁, ht₁, he₁⟩ := h₁
  obtain ⟨hrr₂, ev₂, ht₂, he₂⟩ := h₂
  exact ⟨hrr₂.trans hrr₁, ev₁ ++ ev₂, by simp [ht₁, ht₂], List.forall_mem_append.2 ⟨he₁, he₂⟩⟩

theorem OnlyEngineCalls.extends_trace {s s' : XccdfRun σ} (h : OnlyEngineCalls s s') :
    s.trace <+: s'.trace := by
  obtain ⟨-, events, htrace, -⟩ := h
  rw [htrace]
  exact List.prefix_append _ _

theorem EngineSteps.onlyEngineCalls {ret : Int} {s s' : XccdfRun σ} (h : EngineSteps ret s s') :
    OnlyEngineCalls s s' :=
  let ⟨hrr, events, htrace, hevals, _⟩ := h
  ⟨hrr, events, htrace, hevals⟩

theorem EngineSteps.extends_trace {ret : Int} {s s' : XccdfRun σ} (h : EngineSteps ret s s') :
    s.trace <+: s'.trace :=
  h.onlyEngineCalls.extends_trace

theorem EngineSteps.refl {ret : Int} (hret : ret ≠ -1) (s : XccdfRun σ) : EngineSteps ret s s :=
  ⟨rfl, [], by simp [hret, AbortsWith]⟩

theorem EngineSteps.trans {r₁ r₂ : Int} {s₁ s₂ s₃ : XccdfRun σ} (h₁ : EngineSteps r₁ s₁ s₂)
    (hr₁ : r₁ ≠ -1) (h₂ : EngineSteps r₂ s₂ s₃) : EngineSteps r₂ s₁ s₃ := by
  obtain ⟨hrr₁, ev₁, ht₁, he₁, ha₁⟩ := h₁
  obtain ⟨hrr₂, ev₂, ht₂, he₂, ha₂⟩ := h₂
  refine ⟨hrr₂.trans hrr₁, ev₁ ++ ev₂, by simp [ht₁, ht₂], ?_, ?_⟩
  · exact List.forall_mem_append.2 ⟨he₁, he₂⟩
  · exact AbortsWith.append (by simpa [hr₁] using ha₁) ha₂

theorem engineSteps_resolveNegate {ret : Int} {s s' : XccdfRun σ} (negate : Bool) :
    EngineSteps (resolveNegate negate ret) s s' ↔ EngineSteps ret s s' := by
  simp only [EngineSteps, resolveNegate_eq_neg_one_iff]

theorem evaluateCb_engineSteps (callbacks : List (XccdfCallback σ)) (sysname : String)
    (content : Option String) (href : String) (ruleId : Option String)
    (bindings : List XccdfValueBinding) (s : XccdfRun σ) :
    EngineSteps (xccdfPolicyEvaluateCb callbacks sysname content href ruleId bindings s).1 s
      (xccdfPolicyEvaluateCb callbacks sysname content href ruleId bindings s).2 := by
  obtain ⟨hrr, events, htrace, hcalls, habort⟩ :=
    callUntil_spec XccdfTestResultType.notChecked.toInt (.eval ruleId content href bindings)
      (by simp [XccdfCallbackArg.abortCode, XccdfTestResultType.toInt])
      (callbacksBySysname callbacks sysname) s
  refine ⟨hrr, events, htrace, fun e he => ?_, habort⟩
  obtain ⟨cb, -, ret, rfl⟩ := hcalls e he
  rfl

/-- The content-ref loop answers `-1` exactly when its engines stop the evaluation. -/
theorem checkContentRefsLoop_engineSteps (system : String) (ruleId : Option String)
    (bindings : List XccdfValueBinding) :
    ∀ (contents : List XccdfCheckContentRef) (ret : Int) (s : XccdfRun σ), ret ≠ -1 →
      EngineSteps (checkContentRefsLoop model system ruleId bindings contents ret s).1 s
        (checkContentRefsLoop model system ruleId bindings contents ret s).2.2
  | [], ret, s, hret => EngineSteps.refl hret s
  | content :: contents, _, s, _ => by
    have hcb := evaluateCb_engineSteps model.callbacks system content.name content.href ruleId
      bindings s
    simp only [checkContentRefsLoop]
    split
    · exact hcb
    · rename_i hnc
      exact hcb.trans (by rw [not_not.mp hnc]; decide)
        (checkContentRefsLoop_engineSteps system ruleId bindings contents _ _ (by
          rw [not_not.mp hnc]; decide))

/-- The content-ref loop answers the `ret` it was entered with, NotChecked or the answer of an
engine. -/
theorem checkContentRefsLoop_fst {P : Int → Prop} (hanswers : EngineAnswers P model.callbacks)
    (hnc : P XccdfTestResultType.notChecked.toInt) (system : String) (ruleId : Option String)
    (bindings : List XccdfValueBinding) :
    ∀ (contents : List XccdfCheckContentRef) (ret : Int) (s : XccdfRun σ), P ret →
      P (checkContentRefsLoop model system ruleId bindings contents ret s).1
  | [], _, _, hret => hret
  | content :: contents, _, s, _ => by
    have hcb := evaluateCb_fst hanswers hnc system content.name content.href ruleId bindings s
    simp only [checkContentRefsLoop]
    split
    · exact hcb
    · exact checkContentRefsLoop_fst hanswers hnc system ruleId bindings contents _ _ hcb

mutual
/-- Evaluating a check only calls engines and adds no RuleResult, whatever the engines
answer. -/
theorem checkEvaluate_onlyEngineCalls (ruleId : Option String) :
    ∀ (check : XccdfCheck) (s : XccdfRun σ),
      OnlyEngineCalls s (xccdfPolicyCheckEvaluate model policy env ruleId check s).2.2
  | .complex oper negate children, s => by
    have h := evaluateChildren_onlyEngineCalls ruleId oper children 0 s
    simp only [xccdfPolicyCheckEvaluate]
    split <;> exact h
  | .simple system selector negate multicheck contents exports, s => by
    simp only [xccdfPolicyCheckEvaluate]
    split
    · exact .refl s
    · exact (checkContentRefsLoop_engineSteps model _ _ _ contents 0 s (by decide)).onlyEngineCalls

/-- `checkEvaluate_onlyEngineCalls` for the child loop, from any accumulator. -/
theorem evaluateChildren_onlyEngineCalls (ruleId : Option String) (oper : XccdfBoolOperator) :
    ∀ (children : List XccdfCheck) (ret : Int) (s : XccdfRun σ),
      OnlyEngineCalls s
        (XccdfCheck.evaluateChildren model policy env ruleId oper children ret s).2.2
  | [], _, s => .refl s
  | child :: children, _, s => by
    have h := checkEvaluate_onlyEngineCalls ruleId child s
    simp only [XccdfCheck.evaluateChildren]
    split
    · exact h
    · exact h.trans (evaluateChildren_onlyEngineCalls ruleId oper children _ _)
end

mutual
/-- When every engine answers `-1` or a non-negative code, so does a check evaluation, and it
stops the evaluation exactly when it answers `-1`. -/
theorem checkEvaluate_engineSteps (hcodes : EngineCodes model.callbacks)
    (ruleId : Option String) :
    ∀ (check : XccdfCheck) (s : XccdfRun σ),
      -1 ≤ (xccdfPolicyCheckEvaluate model policy env ruleId check s).1 ∧
        EngineSteps (xccdfPolicyCheckEvaluate model policy env ruleId check s).1 s
          (xccdfPolicyCheckEvaluate model policy env ruleId check s).2.2
  | .complex oper negate children, s => by
    obtain ⟨hge, h⟩ := evaluateChildren_engineSteps hcodes ruleId oper children 0 s le_rfl
    simp only [xccdfPolicyCheckEvaluate]
    split
    · rename_i hr
      rw [hr] at h
      exact ⟨le_rfl, h⟩
    · exact ⟨le_resolveNegate negate (by decide) (by omega),
        (engineSteps_resolveNegate negate).mpr h⟩
  | .simple system selector negate multicheck contents exports, s => by
    simp only [xccdfPolicyCheckEvaluate]
    split
    · exact ⟨(by decide : (-1 : Int) ≤ XccdfTestResultType.unknown.toInt),
        EngineSteps.refl (by decide : XccdfTestResultType.unknown.toInt ≠ -1) s⟩
    · exact ⟨le_resolveNegate negate (by decide)
          (checkContentRefsLoop_fst model hcodes (by decide) _ _ _ contents 0 s (by decide)),
        (engineSteps_resolveNegate negate).mpr
          (checkContentRefsLoop_engineSteps model _ _ _ contents 0 s (by decide))⟩

/-- `checkEvaluate_engineSteps` for the child loop, from a non-negative accumulator. -/
theorem evaluateChildren_engineSteps (hcodes : EngineCodes model.callbacks)
    (ruleId : Option String) (oper : XccdfBoolOperator) :
    ∀ (children : List XccdfCheck) (ret : Int) (s : XccdfRun σ), 0 ≤ ret →
      -1 ≤ (XccdfCheck.evaluateChildren model policy env ruleId oper children ret s).1 ∧
        EngineSteps (XccdfCheck.evaluateChildren model policy env ruleId oper children ret s).1 s
          (XccdfCheck.evaluateChildren model policy env ruleId oper children ret s).2.2
  | [], _, s, hret => by
    simp only [XccdfCheck.evaluateChildren]
    exact ⟨by omega, EngineSteps.refl (by omega) s⟩
  | child :: children, ret, s, hret => by
    obtain ⟨hge, h⟩ := checkEvaluate_engineSteps hcodes ruleId child s
    simp only [XccdfCheck.evaluateChildren]
    split
    · rename_i hr
      rw [hr] at h
      exact ⟨le_rfl, h⟩
    · rename_i hr
      refine (evaluateChildren_engineSteps hcodes ruleId oper children _ _ ?_).imp_right
        (h.trans hr)
      split
      · omega
      · exact resolveOperation_nonneg _ hret (by omega) _
end

mutual
/-- When every engine answers a non-negative code, so does a check evaluation. -/
theorem checkEvaluate_nonneg (hanswers : EngineAnswers (0 ≤ ·) model.callbacks)
    (ruleId : Option String) :
    ∀ (check : XccdfCheck) (s : XccdfRun σ),
      0 ≤ (xccdfPolicyCheckEvaluate model policy env ruleId check s).1
  | .complex oper negate children, s => by
    have h := evaluateChildren_nonneg hanswers ruleId oper children 0 s le_rfl
    have hne : (XccdfCheck.evaluateChildren model policy env ruleId oper children 0 s).1 ≠ -1 := by
      omega
    simp only [xccdfPolicyCheckEvaluate, hne, if_false]
    exact le_resolveNegate negate (by decide) h
  | .simple system selector negate multicheck contents exports, s => by
    simp only [xccdfPolicyCheckEvaluate]
    split
    · exact (by decide : (0 : Int) ≤ XccdfTestResultType.unknown.toInt)
    · exact le_resolveNegate negate (by decide)
        (checkContentRefsLoop_fst model hanswers (by decide) _ _ _ contents 0 s le_rfl)

/-- `checkEvaluate_nonneg` for the child loop, from a non-negative accumulator. -/
theorem evaluateChildren_nonneg (hanswers : EngineAnswers (0 ≤ ·) model.callbacks)
    (ruleId : Option String) (oper : XccdfBoolOperator) :
    ∀ (children : List XccdfCheck) (ret : Int) (s : XccdfRun σ), 0 ≤ ret →
      0 ≤ (XccdfCheck.evaluateChildren model policy env ruleId oper children ret s).1
  | [], _, _, hret => hret
  | child :: children, ret, s, hret => by
    have h := checkEvaluate_nonneg hanswers ruleId child s
    have hne : (xccdfPolicyCheckEvaluate model policy env ruleId child s).1 ≠ -1 := by omega
    simp only [XccdfCheck.evaluateChildren, hne, if_false]
    refine evaluateChildren_nonneg hanswers ruleId oper children _ _ ?_
    split
    · exact h
    · exact resolveOperation_nonneg _ hret h _
end

/-- When no engine answers `-1` and every engine answers `-1` or a non-negative code, no
check evaluation answers `-1`. -/
theorem checkEvaluate_ne_neg_one (hengines : NoEngineAbort model.callbacks)
    (hcodes : EngineCodes model.callbacks) (ruleId : Option String) (check : XccdfCheck)
    (s : XccdfRun σ) : (xccdfPolicyCheckEvaluate model policy env ruleId check s).1 ≠ -1 := by
  have h := checkEvaluate_nonneg model policy env (fun cb hcb w ruleId content href bindings => by
    have h₁ := hengines cb hcb w ruleId content href bindings
    have h₂ := hcodes cb hcb w ruleId content href bindings
    simp only at h₁ h₂ ⊢
    omega) ruleId check s
  omega

end CheckEvaluate

/-! ### AND of Error and Pass -/

/-- An environment whose CPE matchers accept nothing, whose `strverscmp` answers `0`, whose
uninitialised `ret` reads `0`, and that reads `0` before the tables of `_resolve_operation`. -/
def plainEnvironment : XccdfEnvironment :=
  { cpeNameCheck := fun _ => false, cpePlatformApplicableLangModel := fun _ _ _ => false,
    cpeNameApplicableDict := fun _ _ => false, strverscmp := fun _ _ => 0,
    uninitialisedRet := 0, resultTableBefore := fun _ _ => 0 }

/-- An engine of system `sys` without state: Error for the definition `error`, Pass for any
other. -/
def errorPassEngine : XccdfCallback Unit where
  system := "sys"
  callback := fun w arg =>
    match arg with
    | .eval _ (some "error") _ _ => (XccdfTestResultType.error.toInt, w)
    | _ => (XccdfTestResultType.pass.toInt, w)
  queryFn := none

/-- A simple check of system `sys` on one definition, without exports. -/
def simpleCheckOn (name : String) : XccdfCheck :=
  .simple "sys" none false false [{ href := "defs.xml", name := some name }] []

/-- With children answering Error then Pass, an AND check evaluates to Unknown; in the other
order to Error, which is what the documented table gives for both. -/
theorem checkEvaluate_and_error_pass (benchmark : XccdfBenchmark) (policy : XccdfPolicy)
    (env : XccdfEnvironment) (s : XccdfRun Unit) :
    let model : XccdfPolicyModel Unit :=
      { benchmark, policies := [], callbacks := [errorPassEngine], cpeDicts := [],
        cpeLangModels := [] }
    (xccdfPolicyCheckEvaluate model policy env none
        (.complex .and false [simpleCheckOn "error", simpleCheckOn "pass"]) s).1 =
      XccdfTestResultType.unknown.toInt ∧
    (xccdfPolicyCheckEvaluate model policy env none
        (.complex .and false [simpleCheckOn "pass", simpleCheckOn "error"]) s).1 =
      XccdfTestResultType.error.toInt ∧
    documentedOperation XccdfTestResultType.error.toInt XccdfTestResultType.pass.toInt .and =
      XccdfTestResultType.error.toInt :=
  ⟨rfl, rfl, rfl⟩

section DeMorgan

variable (model : XccdfPolicyModel σ) (policy : XccdfPolicy) (env : XccdfEnvironment)

/-! ## De Morgan's laws -/

/-- The check with its own negate flag flipped, its children kept. -/
def XccdfCheck.toggleNegate : XccdfCheck → XccdfCheck
  | .complex oper negate children => .complex oper (!negate) children
  | .simple system selector negate multicheck contents exports =>
    .simple system selector (!negate) multicheck contents exports

/-- The De Morgan dual of a complex check: the other operator, its own negate flag flipped and
every child's flipped. A simple check is its own dual. -/
def XccdfCheck.deMorgan : XccdfCheck → XccdfCheck
  | .complex oper negate children =>
    .complex oper.dual (!negate) (children.map XccdfCheck.toggleNegate)
  | check@(.simple ..) => check

theorem XccdfCheck.toggleNegate_pin (check : XccdfCheck)
    (content : Option XccdfCheckContentRef) :
    check.toggleNegate.pin content = (check.pin content).toggleNegate := by
  cases content <;> cases check <;> rfl

/-- Flipping a check's own negate flag negates its result and the flag of the check it
returns, and changes nothing in the run. -/
theorem checkEvaluate_toggleNegate (ruleId : Option String) (check : XccdfCheck)
    (s : XccdfRun σ) :
    xccdfPolicyCheckEvaluate model policy env ruleId check.toggleNegate s =
      (resolveNegate true (xccdfPolicyCheckEvaluate model policy env ruleId check s).1,
        (xccdfPolicyCheckEvaluate model policy env ruleId check s).2.1.toggleNegate,
        (xccdfPolicyCheckEvaluate model policy env ruleId check s).2.2) := by
  cases check with
  | complex oper negate children =>
    simp only [XccdfCheck.toggleNegate, xccdfPolicyCheckEvaluate]
    split_ifs <;> simp [resolveNegate_not, XccdfCheck.toggleNegate]
  | simple system selector negate multicheck contents exports =>
    simp only [XccdfCheck.toggleNegate, xccdfPolicyCheckEvaluate]
    cases xccdfPolicyCheckGetValueBindings model.benchmark policy.profile exports
    · rfl
    · simp only [resolveNegate_not]
      exact congrArg _ (congrArg (·, _)
        ((XccdfCheck.simple system selector negate multicheck contents exports).toggleNegate_pin _))

/-- The child loop under the other operator, over the children with flipped flags and from the
negated accumulator, computes the negation of the original loop, on the same run, when every
engine answers `-1` or a non-negative code and the accumulator is non-negative. -/
theorem evaluateChildren_deMorgan (hcodes : EngineCodes model.callbacks) (ruleId : Option String)
    (oper : XccdfBoolOperator) :
    ∀ (children : List XccdfCheck) (ret : Int) (s : XccdfRun σ), 0 ≤ ret →
      XccdfCheck.evaluateChildren model policy env ruleId oper.dual
          (children.map XccdfCheck.toggleNegate) (resolveNegate true ret) s =
        (resolveNegate true
            (XccdfCheck.evaluateChildren model policy env ruleId oper children ret s).1,
          (XccdfCheck.evaluateChildren model policy env ruleId oper children ret s).2.1.map
            XccdfCheck.toggleNegate,
          (XccdfCheck.evaluateChildren model policy env ruleId oper children ret s).2.2)
  | [], ret, s, _ => rfl
  | child :: children, ret, s, hret => by
    have hge := (checkEvaluate_engineSteps model policy env hcodes ruleId child s).1
    simp only [List.map_cons, XccdfCheck.evaluateChildren, checkEvaluate_toggleNegate,
      resolveNegate_eq_neg_one_iff, resolveNegate_eq_zero_iff]
    split_ifs with habort hzero
    · simp
    · rw [evaluateChildren_deMorgan hcodes ruleId oper children _ _ (by omega)]; rfl
    · rw [← resolveNegate_resolveOperation _ hret (by omega),
        evaluateChildren_deMorgan hcodes ruleId oper children _ _
          (resolveOperation_nonneg _ hret (by omega) _)]
      rfl

/-- De Morgan's laws hold for `xccdf_policy_check_evaluate` when every engine answers `-1` or a
non-negative code: the dual of a check gives the same result, on the same run (the same engine
calls and world), and returns the dual of the evaluated check. NOT(AND(c₁, …, cₙ)) evaluates
as OR(NOT c₁, …, NOT cₙ), and NOT(OR(…)) as AND(NOT …), although the code's tables are not the
documented ones. -/
theorem checkEvaluate_deMorgan (hcodes : EngineCodes model.callbacks) (ruleId : Option String)
    (check : XccdfCheck) (s : XccdfRun σ) :
    xccdfPolicyCheckEvaluate model policy env ruleId check.deMorgan s =
      ((xccdfPolicyCheckEvaluate model policy env ruleId check s).1,
        (xccdfPolicyCheckEvaluate model policy env ruleId check s).2.1.deMorgan,
        (xccdfPolicyCheckEvaluate model policy env ruleId check s).2.2) := by
  cases check with
  | complex oper negate children =>
    have h : XccdfCheck.evaluateChildren model policy env ruleId oper.dual
        (children.map XccdfCheck.toggleNegate) 0 s = _ :=
      evaluateChildren_deMorgan model policy env hcodes ruleId oper children 0 s le_rfl
    simp only [XccdfCheck.deMorgan, xccdfPolicyCheckEvaluate, h, resolveNegate_eq_neg_one_iff]
    split_ifs <;> simp [resolveNegate_not_resolveNegate, XccdfCheck.deMorgan]
  | simple system selector negate multicheck contents exports =>
    simp only [XccdfCheck.deMorgan, xccdfPolicyCheckEvaluate]
    cases xccdfPolicyCheckGetValueBindings model.benchmark policy.profile exports
    · rfl
    · simp only
      cases (checkContentRefsLoop model system ruleId _ contents 0 s).2.1 <;> rfl

/-- `oneRuleBenchmark` with `errorPassEngine` as its one callback. -/
def errorPassModel : XccdfPolicyModel Unit :=
  { benchmark := oneRuleBenchmark, policies := [], callbacks := [errorPassEngine], cpeDicts := [],
    cpeLangModels := [] }

theorem checkEvaluate_deMorgan_errorPass :
    EngineCodes errorPassModel.callbacks ∧
      let check : XccdfCheck := .complex .and true [simpleCheckOn "error", simpleCheckOn "pass"]
      let policy := xccdfPolicyNew oneRuleBenchmark emptyProfile
      xccdfPolicyCheckEvaluate errorPassModel policy plainEnvironment none check.deMorgan
          ⟨(), [], []⟩ =
        ((xccdfPolicyCheckEvaluate errorPassModel policy plainEnvironment none check
            ⟨(), [], []⟩).1,
          (xccdfPolicyCheckEvaluate errorPassModel policy plainEnvironment none check
            ⟨(), [], []⟩).2.1.deMorgan,
          (xccdfPolicyCheckEvaluate errorPassModel policy plainEnvironment none check
            ⟨(), [], []⟩).2.2) :=
  have hcodes : EngineCodes errorPassModel.callbacks := by
    intro cb hcb w ruleId content href bindings
    obtain rfl := List.mem_singleton.mp hcb
    simp only [errorPassEngine]
    split <;> simp [XccdfTestResultType.toInt]
  ⟨hcodes, checkEvaluate_deMorgan errorPassModel _ plainEnvironment hcodes none _ _⟩

end DeMorgan

end Xccdf
