import XccdfPolicy.Model

/-!
# Callbacks an evaluation does not consult

`model->callbacks` is one list for engines and hooks, and every consumer reads it through
`_xccdf_policy_get_callbacks_by_sysname`. So a callback registered for a system that no check
of the Benchmark names is never called as an engine, and a start or output hook is only ever
called as a hook. This module shows that registering such callbacks, engines of other systems
and hooks that answer `0` and leave the world as it is, changes nothing in an evaluation but
the hook calls in its trace.

The module introduces:

* `XccdfRun.SameButHooks s₁ s₂`: the same world and RuleResults, and the same trace once the
  hook calls are removed; `SameStep r₁ r₂` adds the same answer.
* `XccdfCheck.systems`: the systems of the simple checks at or below a check.

Each layer of the evaluation takes runs that are `SameButHooks` to results that are
`SameStep`, one lemma per function of the source: a callback loop over the same callbacks, the
hook loops with passive hooks appended (`callUntil_passive`), the check chosen for a Rule
(`ruleGetApplicableCheck_addCallbacks`), and so up to `evaluate_addCallbacks`.
-/

namespace Xccdf

variable {σ : Type}

/-! ## Hook calls, passive hooks, systems of a check -/

/-- A start or output hook's argument. -/
def XccdfCallbackArg.isHook : XccdfCallbackArg → Bool
  | .eval .. => false
  | _ => true

/-- A call of a start or output hook. -/
def XccdfEvent.isHookCall : XccdfEvent → Bool
  | .call _ arg _ => arg.isHook
  | _ => false

/-- A callback that always answers `0` and leaves the world as it is. -/
def XccdfCallback.Passive (cb : XccdfCallback σ) : Prop :=
  ∀ w arg, cb.callback w arg = (0, w)

mutual
/-- The systems of the simple checks at or below a check. -/
def XccdfCheck.systems : XccdfCheck → List String
  | .simple system .. => [system]
  | .complex _ _ children => XccdfCheck.listSystems children

/-- `XccdfCheck.systems` over a list of checks. -/
def XccdfCheck.listSystems : List XccdfCheck → List String
  | [] => []
  | check :: checks => check.systems ++ XccdfCheck.listSystems checks
end

@[simp]
theorem XccdfCheck.systems_injectContentRef (check : XccdfCheck) (content : XccdfCheckContentRef)
    (name : Option String) : (check.injectContentRef content name).systems = check.systems := by
  cases check <;> rfl

/-- The model with the callbacks `added` registered after its own, in order. -/
def XccdfPolicyModel.addCallbacks (model : XccdfPolicyModel σ) (added : List (XccdfCallback σ)) :
    XccdfPolicyModel σ :=
  { model with callbacks := model.callbacks ++ added }

@[simp]
theorem XccdfPolicyModel.addCallbacks_callbacks (model : XccdfPolicyModel σ)
    (added : List (XccdfCallback σ)) :
    (model.addCallbacks added).callbacks = model.callbacks ++ added := rfl

@[simp]
theorem XccdfPolicyModel.addCallbacks_benchmark (model : XccdfPolicyModel σ)
    (added : List (XccdfCallback σ)) : (model.addCallbacks added).benchmark = model.benchmark :=
  rfl

/-- Registering callbacks one after the other appends them to the model's list. -/
theorem XccdfPolicyModel.foldl_addCallback (added : List (XccdfCallback σ)) :
    ∀ model : XccdfPolicyModel σ,
      added.foldl XccdfPolicyModel.addCallback model = model.addCallbacks added := by
  induction added with
  | nil =>
    intro model
    cases model
    simp [XccdfPolicyModel.addCallbacks]
  | cons cb added ih =>
    intro model
    rw [List.foldl_cons, ih]
    simp [XccdfPolicyModel.addCallbacks, XccdfPolicyModel.addCallback]

theorem callbacksBySysname_append (callbacks added : List (XccdfCallback σ)) (sysname : String) :
    callbacksBySysname (callbacks ++ added) sysname =
      callbacksBySysname callbacks sysname ++ callbacksBySysname added sysname :=
  List.filter_append _ _

/-! ## Runs equal but for hook calls -/

/-- Two runs with the same world and RuleResults, and the same trace once the hook calls are
removed. -/
def XccdfRun.SameButHooks (s₁ s₂ : XccdfRun σ) : Prop :=
  s₁.world = s₂.world ∧ s₁.ruleResults = s₂.ruleResults ∧
    s₁.trace.filter (!·.isHookCall) = s₂.trace.filter (!·.isHookCall)

/-- Two results of one step, the first under a model and the second with callbacks added: the
same answer, and runs equal but for hook calls. -/
def SameStep {α : Type} (r₁ r₂ : α × XccdfRun σ) : Prop :=
  r₂.1 = r₁.1 ∧ r₁.2.SameButHooks r₂.2

namespace XccdfRun.SameButHooks

variable {s₁ s₂ : XccdfRun σ}

theorem refl (s : XccdfRun σ) : s.SameButHooks s :=
  ⟨rfl, rfl, rfl⟩

/-- One callback called on both runs. -/
theorem call (h : s₁.SameButHooks s₂) (cb : XccdfCallback σ) (arg : XccdfCallbackArg) :
    SameStep (s₁.call cb arg) (s₂.call cb arg) := by
  obtain ⟨hw, hrr, ht⟩ := h
  exact ⟨by simp [hw], by simp [XccdfRun.call, hw], hrr,
    by simp [XccdfRun.call, List.filter_append, ht, hw]⟩

/-- One event recorded on both runs. -/
theorem record (h : s₁.SameButHooks s₂) (e : XccdfEvent) :
    ({ s₁ with trace := s₁.trace ++ [e] } : XccdfRun σ).SameButHooks
      { s₂ with trace := s₂.trace ++ [e] } :=
  ⟨h.1, h.2.1, by simp [List.filter_append, h.2.2]⟩

end XccdfRun.SameButHooks

/-! ## Callback loops -/

/-- A callback loop over the same callbacks. -/
theorem callUntil_sameStep (pass : Int) (arg : XccdfCallbackArg) :
    ∀ (cbs : List (XccdfCallback σ)) {s₁ s₂ : XccdfRun σ}, s₁.SameButHooks s₂ →
      SameStep (callUntil pass arg cbs s₁) (callUntil pass arg cbs s₂)
  | [], _, _, h => ⟨rfl, h⟩
  | cb :: cbs, s₁, s₂, h => by
    obtain ⟨hcall, hsame⟩ := h.call cb arg
    simp only [callUntil]
    rw [hcall]
    split_ifs
    · exact callUntil_sameStep pass arg cbs hsame
    · exact ⟨hcall, hsame⟩

/-- Passive hooks alone answer `0` and add hook calls only. -/
theorem callUntil_passive_only (arg : XccdfCallbackArg) (harg : arg.isHook = true) :
    ∀ (extra : List (XccdfCallback σ)), (∀ cb ∈ extra, cb.Passive) →
      ∀ {s₁ s₂ : XccdfRun σ}, s₁.SameButHooks s₂ →
        SameStep ((0 : Int), s₁) (callUntil 0 arg extra s₂)
  | [], _, _, _, h => ⟨rfl, h⟩
  | cb :: extra, hextra, s₁, s₂, h => by
    have hcb : ∀ w a, cb.callback w a = (0, w) := hextra cb (List.mem_cons_self _ _)
    have hhook : (XccdfEvent.call cb.system arg 0).isHookCall = true := harg
    have hsame : s₁.SameButHooks (s₂.call cb arg).2 :=
      ⟨by simp [XccdfRun.call, hcb, h.1], by simp [h.2.1],
        by simp [XccdfRun.call, List.filter_append, hcb, hhook, h.2.2]⟩
    simp only [callUntil, XccdfRun.call_fst, hcb, if_true]
    exact callUntil_passive_only arg harg extra
      (fun c hc => hextra c (List.mem_cons_of_mem _ hc)) hsame

/-- A hook loop with passive hooks appended answers as without them. -/
theorem callUntil_passive (arg : XccdfCallbackArg) (harg : arg.isHook = true)
    (extra : List (XccdfCallback σ)) (hextra : ∀ cb ∈ extra, cb.Passive) :
    ∀ (cbs : List (XccdfCallback σ)) {s₁ s₂ : XccdfRun σ}, s₁.SameButHooks s₂ →
      SameStep (callUntil 0 arg cbs s₁) (callUntil 0 arg (cbs ++ extra) s₂)
  | [], _, _, h => callUntil_passive_only arg harg extra hextra h
  | cb :: cbs, s₁, s₂, h => by
    obtain ⟨hcall, hsame⟩ := h.call cb arg
    simp only [List.cons_append, callUntil]
    rw [hcall]
    split_ifs
    · exact callUntil_passive arg harg extra hextra cbs hsame
    · exact ⟨hcall, hsame⟩

/-- The names loop over the same callbacks. -/
theorem getNamesforHrefLoop_sameStep (href : String) :
    ∀ (cbs : List (XccdfCallback σ)) {s₁ s₂ : XccdfRun σ}, s₁.SameButHooks s₂ →
      SameStep (getNamesforHrefLoop href cbs s₁) (getNamesforHrefLoop href cbs s₂)
  | [], _, _, h => ⟨rfl, h⟩
  | cb :: cbs, s₁, s₂, h => by
    rcases hq : cb.queryFn with _ | queryFn
    · simp only [getNamesforHrefLoop, hq]
      exact getNamesforHrefLoop_sameStep href cbs h
    · have hsame : ({ s₁ with world := (queryFn s₁.world href).2,
                              trace := s₁.trace ++ [.query cb.system href] } :
            XccdfRun σ).SameButHooks
          { s₂ with world := (queryFn s₂.world href).2,
                    trace := s₂.trace ++ [.query cb.system href] } :=
        ⟨by simp [h.1], h.2.1, by simp [List.filter_append, h.2.2]⟩
      simp only [getNamesforHrefLoop, hq, h.1] at hsame ⊢
      split
      · exact ⟨rfl, hsame⟩
      · exact getNamesforHrefLoop_sameStep href cbs hsame

/-! ## The layers of an evaluation -/

section Frame

variable (model : XccdfPolicyModel σ) (policy : XccdfPolicy) (env : XccdfEnvironment)
  {added : List (XccdfCallback σ)}

/-- The engines of a system that no added callback has. -/
theorem evaluateCb_addCallbacks {sysname : String} (hsys : callbacksBySysname added sysname = [])
    (content : Option String) (href : String) (ruleId : Option String)
    (bindings : List XccdfValueBinding) {s₁ s₂ : XccdfRun σ} (h : s₁.SameButHooks s₂) :
    SameStep (xccdfPolicyEvaluateCb model.callbacks sysname content href ruleId bindings s₁)
      (xccdfPolicyEvaluateCb (model.addCallbacks added).callbacks sysname content href ruleId
        bindings s₂) := by
  simp only [xccdfPolicyEvaluateCb, XccdfPolicyModel.addCallbacks_callbacks,
    callbacksBySysname_append, hsys, List.append_nil]
  exact callUntil_sameStep _ _ _ h

/-- The names query of a system that no added callback has. -/
theorem getNamesforHref_addCallbacks {sysname : String}
    (hsys : callbacksBySysname added sysname = []) (href : String) {s₁ s₂ : XccdfRun σ}
    (h : s₁.SameButHooks s₂) :
    SameStep (xccdfPolicyGetNamesforHref model.callbacks sysname href s₁)
      (xccdfPolicyGetNamesforHref (model.addCallbacks added).callbacks sysname href s₂) := by
  simp only [xccdfPolicyGetNamesforHref, XccdfPolicyModel.addCallbacks_callbacks,
    callbacksBySysname_append, hsys, List.append_nil]
  exact getNamesforHrefLoop_sameStep _ _ h

/-- The hooks of a hook system, when the added hooks are passive. -/
theorem reportCb_addCallbacks
    (hhooks : ∀ cb ∈ added, cb.system = startSystem ∨ cb.system = outputSystem → cb.Passive)
    {sysname : String} (hsys : sysname = startSystem ∨ sysname = outputSystem)
    (arg : XccdfCallbackArg) (harg : arg.isHook = true) {s₁ s₂ : XccdfRun σ}
    (h : s₁.SameButHooks s₂) :
    SameStep (xccdfPolicyReportCb model.callbacks sysname arg s₁)
      (xccdfPolicyReportCb (model.addCallbacks added).callbacks sysname arg s₂) := by
  have hpassive : ∀ cb ∈ callbacksBySysname added sysname, cb.Passive := fun cb hcb => by
    obtain ⟨hmem, hcbsys⟩ := List.mem_filter.1 hcb
    exact hhooks cb hmem ((of_decide_eq_true hcbsys).symm ▸ hsys)
  simp only [xccdfPolicyReportCb, XccdfPolicyModel.addCallbacks_callbacks,
    callbacksBySysname_append]
  exact callUntil_passive arg harg _ hpassive _ h

theorem checkContentRefsLoop_addCallbacks {system : String}
    (hsys : callbacksBySysname added system = []) (ruleId : Option String)
    (bindings : List XccdfValueBinding) :
    ∀ (contents : List XccdfCheckContentRef) (ret : Int) {s₁ s₂ : XccdfRun σ},
      s₁.SameButHooks s₂ →
      (checkContentRefsLoop (model.addCallbacks added) system ruleId bindings contents ret
          s₂).1 = (checkContentRefsLoop model system ruleId bindings contents ret s₁).1 ∧
        SameStep (checkContentRefsLoop model system ruleId bindings contents ret s₁).2
          (checkContentRefsLoop (model.addCallbacks added) system ruleId bindings contents ret
            s₂).2
  | [], _, _, _, h => ⟨rfl, rfl, h⟩
  | content :: contents, _, s₁, s₂, h => by
    obtain ⟨h₁, h₂⟩ := evaluateCb_addCallbacks model hsys content.name content.href ruleId
      bindings h
    simp only [checkContentRefsLoop]
    generalize xccdfPolicyEvaluateCb model.callbacks system content.name content.href ruleId
      bindings s₁ = r₁ at h₁ h₂ ⊢
    generalize xccdfPolicyEvaluateCb (model.addCallbacks added).callbacks system content.name
      content.href ruleId bindings s₂ = r₂ at h₁ h₂ ⊢
    rw [h₁]
    split_ifs
    · exact ⟨rfl, rfl, h₂⟩
    · exact checkContentRefsLoop_addCallbacks hsys ruleId bindings contents r₁.1 h₂

mutual
/-- A check evaluation whose systems no added callback has. -/
theorem checkEvaluate_addCallbacks (ruleId : Option String) :
    ∀ (check : XccdfCheck), (∀ system ∈ check.systems, callbacksBySysname added system = []) →
      ∀ {s₁ s₂ : XccdfRun σ}, s₁.SameButHooks s₂ →
        (xccdfPolicyCheckEvaluate (model.addCallbacks added) policy env ruleId check s₂).1 =
            (xccdfPolicyCheckEvaluate model policy env ruleId check s₁).1 ∧
          SameStep (xccdfPolicyCheckEvaluate model policy env ruleId check s₁).2
            (xccdfPolicyCheckEvaluate (model.addCallbacks added) policy env ruleId check s₂).2
  | .complex oper negate children, hsys, s₁, s₂, h => by
    obtain ⟨h₁, h₂, h₃⟩ := evaluateChildren_addCallbacks ruleId oper children hsys 0 h
    simp only [xccdfPolicyCheckEvaluate]
    generalize XccdfCheck.evaluateChildren model policy env ruleId oper children 0 s₁ = r₁
      at h₁ h₂ h₃ ⊢
    generalize XccdfCheck.evaluateChildren (model.addCallbacks added) policy env ruleId oper
      children 0 s₂ = r₂ at h₁ h₂ h₃ ⊢
    rw [h₁, h₂]
    split_ifs <;> exact ⟨rfl, rfl, h₃⟩
  | .simple system selector negate multicheck contents exports, hsys, s₁, s₂, h => by
    simp only [xccdfPolicyCheckEvaluate, XccdfPolicyModel.addCallbacks_benchmark]
    split
    · exact ⟨rfl, rfl, h⟩
    · obtain ⟨h₁, h₂, h₃⟩ := checkContentRefsLoop_addCallbacks model
        (hsys system (List.mem_singleton_self _)) ruleId _ contents 0 h
      rw [h₁, h₂]
      exact ⟨rfl, rfl, h₃⟩

/-- `checkEvaluate_addCallbacks` for the child loop. -/
theorem evaluateChildren_addCallbacks (ruleId : Option String) (oper : XccdfBoolOperator) :
    ∀ (children : List XccdfCheck),
      (∀ system ∈ XccdfCheck.listSystems children, callbacksBySysname added system = []) →
      ∀ (ret : Int) {s₁ s₂ : XccdfRun σ}, s₁.SameButHooks s₂ →
        (XccdfCheck.evaluateChildren (model.addCallbacks added) policy env ruleId oper children ret
            s₂).1 = (XccdfCheck.evaluateChildren model policy env ruleId oper children ret s₁).1 ∧
          SameStep (XccdfCheck.evaluateChildren model policy env ruleId oper children ret s₁).2
            (XccdfCheck.evaluateChildren (model.addCallbacks added) policy env ruleId oper children
              ret s₂).2
  | [], _, _, _, _, h => ⟨rfl, rfl, h⟩
  | child :: children, hsys, ret, s₁, s₂, h => by
    have hchild : ∀ system ∈ child.systems, callbacksBySysname added system = [] :=
      fun system hs => hsys system (List.mem_append_left _ hs)
    have hrest : ∀ system ∈ XccdfCheck.listSystems children,
        callbacksBySysname added system = [] :=
      fun system hs => hsys system (List.mem_append_right _ hs)
    obtain ⟨h₁, h₂, h₃⟩ := checkEvaluate_addCallbacks ruleId child hchild h
    simp only [XccdfCheck.evaluateChildren]
    generalize xccdfPolicyCheckEvaluate model policy env ruleId child s₁ = r₁ at h₁ h₂ h₃ ⊢
    generalize xccdfPolicyCheckEvaluate (model.addCallbacks added) policy env ruleId child s₂ = r₂
      at h₁ h₂ h₃ ⊢
    rw [h₁, h₂]
    generalize (if ret = 0 then r₁.1 else resolveOperation env.resultTableBefore ret r₁.1 oper) =
      ret'
    split_ifs
    · exact ⟨rfl, rfl, h₃⟩
    · obtain ⟨k₁, k₂, k₃⟩ := evaluateChildren_addCallbacks ruleId oper children hrest ret' h₃
      rw [k₁, k₂]
      exact ⟨rfl, rfl, k₃⟩
end

/-- The check chosen for a Rule whose checks' systems no added callback has. -/
theorem ruleGetApplicableCheck_addCallbacks (rule : XccdfRule)
    (hfree : ∀ check ∈ rule.checks, ∀ system ∈ check.systems,
      callbacksBySysname added system = []) :
    xccdfPolicyRuleGetApplicableCheck (model.addCallbacks added) policy rule =
      xccdfPolicyRuleGetApplicableCheck model policy rule := by
  have hregistered : ∀ check ∈ rule.checks,
      (check.system.any fun system => (model.addCallbacks added).callbacks.any
        (·.system = system)) =
      (check.system.any fun system => model.callbacks.any (·.system = system)) := by
    intro check hcheck
    cases check with
    | complex => rfl
    | simple system =>
      have hnone := List.filter_eq_nil_iff.1
        (hfree _ hcheck system (List.mem_singleton_self _))
      have hadded : (added.any fun cb => cb.system = system) = false :=
        List.any_eq_false.2 fun cb hcb => hnone cb hcb
      simp only [XccdfCheck.system, Option.any_some, XccdfPolicyModel.addCallbacks_callbacks,
        List.any_append, hadded, Bool.or_false]
  simp only [xccdfPolicyRuleGetApplicableCheck, applicableCheckLoop_eq]
  split
  · rfl
  · congr 1
    refine List.filter_congr fun check hcheck => hregistered check ?_
    split at hcheck <;> exact (List.mem_filter.1 hcheck).1

theorem itemIsApplicable_addCallbacks :
    ∀ chain : List (List String),
      xccdfPolicyModelItemIsApplicable (model.addCallbacks added) env chain =
        xccdfPolicyModelItemIsApplicable model env chain
  | [] => rfl
  | platforms :: parents => by
    simp only [xccdfPolicyModelItemIsApplicable, itemIsApplicable_addCallbacks parents]
    rfl

variable (hhooks : ∀ cb ∈ added, cb.system = startSystem ∨ cb.system = outputSystem → cb.Passive)
include hhooks

theorem reportRuleResult_addCallbacks (rule : XccdfRule) (check : Option XccdfCheck) (res : Int)
    (message : Option String) {s₁ s₂ : XccdfRun σ} (h : s₁.SameButHooks s₂) :
    SameStep (xccdfPolicyReportRuleResult model rule check res message s₁)
      (xccdfPolicyReportRuleResult (model.addCallbacks added) rule check res message s₂) := by
  unfold xccdfPolicyReportRuleResult
  split_ifs
  · exact ⟨rfl, h⟩
  · exact reportCb_addCallbacks model hhooks (.inr rfl) (.output _) rfl
      ⟨h.1, by simp [h.2.1], by simpa [List.filter_append, XccdfEvent.isHookCall] using h.2.2⟩

theorem ruleMultiCheckLoop_addCallbacks (rule : XccdfRule) (check : XccdfCheck)
    (content : XccdfCheckContentRef)
    (hsys : ∀ system ∈ check.systems, callbacksBySysname added system = []) :
    ∀ (name : String) (names : List String) {s₁ s₂ : XccdfRun σ}, s₁.SameButHooks s₂ →
      SameStep (ruleMultiCheckLoop model policy env rule check content name names s₁)
        (ruleMultiCheckLoop (model.addCallbacks added) policy env rule check content name names s₂)
  | name, names, s₁, s₂, h => by
    obtain ⟨h₁, h₂, h₃⟩ := checkEvaluate_addCallbacks model policy env none
      (check.injectContentRef content (some name)) (by simpa using hsys) h
    unfold ruleMultiCheckLoop
    dsimp only
    generalize xccdfPolicyCheckEvaluate model policy env none
      (check.injectContentRef content (some name)) s₁ = r₁ at h₁ h₂ h₃ ⊢
    generalize xccdfPolicyCheckEvaluate (model.addCallbacks added) policy env none
      (check.injectContentRef content (some name)) s₂ = r₂ at h₁ h₂ h₃ ⊢
    rw [h₁, h₂]
    obtain ⟨k₁, k₂⟩ := reportRuleResult_addCallbacks model hhooks rule (some r₁.2.1) r₁.1 none h₃
    generalize xccdfPolicyReportRuleResult model rule (some r₁.2.1) r₁.1 none r₁.2.2 = report₁
      at k₁ k₂ ⊢
    generalize xccdfPolicyReportRuleResult (model.addCallbacks added) rule (some r₁.2.1) r₁.1
      none r₂.2.2 = report₂ at k₁ k₂ ⊢
    rw [k₁]
    cases names with
    | nil =>
      dsimp only
      split_ifs
      · exact ⟨rfl, h₃⟩
      · exact ⟨k₁, k₂⟩
      · exact ⟨k₁, k₂⟩
    | cons next rest =>
      dsimp only
      obtain ⟨j₁, j₂⟩ := reportCb_addCallbacks model hhooks (.inl rfl) (.start rule) rfl k₂
      generalize xccdfPolicyReportCb model.callbacks startSystem (.start rule) report₁.2 =
        started₁ at j₁ j₂ ⊢
      generalize xccdfPolicyReportCb (model.addCallbacks added).callbacks startSystem
        (.start rule) report₂.2 = started₂ at j₁ j₂ ⊢
      rw [j₁]
      split_ifs
      · exact ⟨rfl, h₃⟩
      · exact ⟨k₁, k₂⟩
      · exact ⟨j₁, j₂⟩
      · exact ruleMultiCheckLoop_addCallbacks rule check content hsys next rest j₂

theorem ruleEvalContent_addCallbacks (rule : XccdfRule) (check : XccdfCheck) {system : String}
    (hsys : callbacksBySysname added system = []) (bindings : List XccdfValueBinding)
    (content : XccdfCheckContentRef)
    {next₁ next₂ : Option String → Int → XccdfRun σ → Int × XccdfRun σ}
    (hnext : ∀ message ret {s₁ s₂ : XccdfRun σ}, s₁.SameButHooks s₂ →
      SameStep (next₁ message ret s₁) (next₂ message ret s₂))
    (message : Option String) {s₁ s₂ : XccdfRun σ} (h : s₁.SameButHooks s₂) :
    SameStep (ruleEvalContent model rule check system bindings content next₁ message s₁)
      (ruleEvalContent (model.addCallbacks added) rule check system bindings content next₂
        message s₂) := by
  obtain ⟨h₁, h₂⟩ := evaluateCb_addCallbacks model hsys content.name content.href none
    bindings h
  unfold ruleEvalContent
  dsimp only
  generalize xccdfPolicyEvaluateCb model.callbacks system content.name content.href none
    bindings s₁ = r₁ at h₁ h₂ ⊢
  generalize xccdfPolicyEvaluateCb (model.addCallbacks added).callbacks system content.name
    content.href none bindings s₂ = r₂ at h₁ h₂ ⊢
  rw [h₁]
  split_ifs
  · exact reportRuleResult_addCallbacks model hhooks rule _ _ _ h₂
  · exact hnext _ _ h₂

theorem ruleContentRefsLoop_addCallbacks (rule : XccdfRule) (check : XccdfCheck)
    {system : String} (hsys : callbacksBySysname added system = [])
    (hsystems : ∀ system ∈ check.systems, callbacksBySysname added system = [])
    (multicheck : Bool) (bindings : List XccdfValueBinding) :
    ∀ (contents : List XccdfCheckContentRef) (message : Option String) (ret : Int)
      {s₁ s₂ : XccdfRun σ}, s₁.SameButHooks s₂ →
      SameStep
        (ruleContentRefsLoop model policy env rule check system multicheck bindings contents message
          ret s₁)
        (ruleContentRefsLoop (model.addCallbacks added) policy env rule check system multicheck
          bindings contents message ret s₂)
  | [], _, _, _, _, h => reportRuleResult_addCallbacks model hhooks rule _ _ _ h
  | content :: contents, _, _, s₁, s₂, h => by
    have heval := ruleEvalContent_addCallbacks model hhooks rule check hsys bindings content
      (ruleContentRefsLoop_addCallbacks rule check hsys hsystems multicheck bindings contents)
    obtain ⟨h₁, h₂⟩ := getNamesforHref_addCallbacks model hsys content.href h
    unfold ruleContentRefsLoop
    split
    · dsimp only
      generalize xccdfPolicyGetNamesforHref model.callbacks system content.href s₁ = q₁
        at h₁ h₂ ⊢
      generalize xccdfPolicyGetNamesforHref (model.addCallbacks added).callbacks system
        content.href s₂ = q₂ at h₁ h₂ ⊢
      rw [h₁]
      split
      · exact reportRuleResult_addCallbacks model hhooks rule _ _ _ h₂
      · exact ruleMultiCheckLoop_addCallbacks model policy env hhooks rule check content hsystems
          _ _ h₂
      · exact heval _ h₂
    · exact heval _ h

theorem ruleEvaluateCheck_addCallbacks (rule : XccdfRule) (check : XccdfCheck)
    (hsystems : ∀ system ∈ check.systems, callbacksBySysname added system = [])
    {s₁ s₂ : XccdfRun σ} (h : s₁.SameButHooks s₂) :
    SameStep (xccdfPolicyRuleEvaluateCheck model policy env rule check s₁)
      (xccdfPolicyRuleEvaluateCheck (model.addCallbacks added) policy env rule check s₂) := by
  cases check with
  | complex oper negate children =>
    obtain ⟨h₁, h₂, h₃⟩ := checkEvaluate_addCallbacks model policy env none
      (.complex oper negate children) hsystems h
    simp only [xccdfPolicyRuleEvaluateCheck]
    rw [h₁, h₂]
    exact reportRuleResult_addCallbacks model hhooks rule _ _ _ h₃
  | simple system selector negate multicheck contents exports =>
    simp only [xccdfPolicyRuleEvaluateCheck, XccdfPolicyModel.addCallbacks_benchmark]
    split
    · exact reportRuleResult_addCallbacks model hhooks rule _ _ _ h
    · exact ruleContentRefsLoop_addCallbacks model policy env hhooks rule _
        (hsystems system (List.mem_singleton_self _)) hsystems multicheck _ contents _ _ h

theorem ruleEvaluate_addCallbacks (rule : XccdfRule) (path : List XccdfGroup)
    (hfree : ∀ check ∈ rule.checks, ∀ system ∈ check.systems,
      callbacksBySysname added system = [])
    {s₁ s₂ : XccdfRun σ} (h : s₁.SameButHooks s₂) :
    SameStep (xccdfPolicyRuleEvaluate model policy env rule path s₁)
      (xccdfPolicyRuleEvaluate (model.addCallbacks added) policy env rule path s₂) := by
  obtain ⟨h₁, h₂⟩ := reportCb_addCallbacks model hhooks (.inl rfl) (.start rule) rfl h
  unfold xccdfPolicyRuleEvaluate
  dsimp only
  rw [itemIsApplicable_addCallbacks model env, XccdfPolicyModel.addCallbacks_benchmark,
    ruleGetApplicableCheck_addCallbacks model policy rule hfree]
  generalize xccdfPolicyReportCb model.callbacks startSystem (.start rule) s₁ = report₁
    at h₁ h₂ ⊢
  generalize xccdfPolicyReportCb (model.addCallbacks added).callbacks startSystem (.start rule)
    s₂ = report₂ at h₁ h₂ ⊢
  rw [h₁]
  split_ifs
  · exact ⟨h₁, h₂⟩
  · exact reportRuleResult_addCallbacks model hhooks rule _ _ _ h₂
  · exact reportRuleResult_addCallbacks model hhooks rule _ _ _ (h₂.record _)
  · split
    · exact reportRuleResult_addCallbacks model hhooks rule _ _ _ (h₂.record _)
    · rename_i check hcheck
      exact ruleEvaluateCheck_addCallbacks model policy env hhooks rule check
        (hfree check (ruleGetApplicableCheck_mem model policy hcheck)) (h₂.record _)

theorem evaluateSelects_addCallbacks
    (hfree : ∀ p ∈ model.benchmark.rulePaths, ∀ check ∈ p.1.checks, ∀ system ∈ check.systems,
      callbacksBySysname added system = []) :
    ∀ (sels : List XccdfSelect) {s₁ s₂ : XccdfRun σ}, s₁.SameButHooks s₂ →
      SameStep (xccdfPolicyEvaluateSelects model policy env sels s₁)
        (xccdfPolicyEvaluateSelects (model.addCallbacks added) policy env sels s₂)
  | [], _, _, h => ⟨rfl, h⟩
  | sel :: sels, s₁, s₂, h => by
    simp only [xccdfPolicyEvaluateSelects, XccdfPolicyModel.addCallbacks_benchmark]
    split
    · rename_i rule path hitem
      have hp : (rule, path) ∈ model.benchmark.rulePaths := by
        simpa using model.benchmark.rulePaths_of_getItem hitem (rule, [])
          (by simp [XccdfItem.rulePaths])
      obtain ⟨h₁, h₂⟩ := ruleEvaluate_addCallbacks model policy env hhooks rule path
        (hfree _ hp) h
      generalize xccdfPolicyRuleEvaluate model policy env rule path s₁ = r₁ at h₁ h₂ ⊢
      generalize xccdfPolicyRuleEvaluate (model.addCallbacks added) policy env rule path s₂ = r₂
        at h₁ h₂ ⊢
      rw [h₁]
      split_ifs
      · exact evaluateSelects_addCallbacks hfree sels h₂
      · exact ⟨h₁, h₂⟩
    · exact evaluateSelects_addCallbacks hfree sels h

end Frame

/-! ## Registering callbacks no check names -/

/-- Whatever the callbacks answer, registering callbacks whose system no check of the
Benchmark names, where those of the start and output systems answer `0` and leave the world as
it is, changes nothing in `xccdf_policy_evaluate`: the same TestResult, the same policy after
it, the same world and RuleResults, and the same trace but for the calls of hooks. -/
theorem evaluate_addCallbacks (model : XccdfPolicyModel σ) (policy : XccdfPolicy)
    (env : XccdfEnvironment) (s : XccdfRun σ) (added : List (XccdfCallback σ))
    (hadded : ∀ cb ∈ added,
      (∀ p ∈ model.benchmark.rulePaths, ∀ check ∈ p.1.checks, cb.system ∉ check.systems) ∧
        (cb.system = startSystem ∨ cb.system = outputSystem → cb.Passive)) :
    (xccdfPolicyEvaluate (added.foldl XccdfPolicyModel.addCallback model) policy env s).1 =
        (xccdfPolicyEvaluate model policy env s).1 ∧
      (xccdfPolicyEvaluate (added.foldl XccdfPolicyModel.addCallback model) policy env s).2.1 =
        (xccdfPolicyEvaluate model policy env s).2.1 ∧
      (xccdfPolicyEvaluate model policy env s).2.2.SameButHooks
        (xccdfPolicyEvaluate (added.foldl XccdfPolicyModel.addCallback model) policy env
          s).2.2 := by
  have hfree : ∀ p ∈ model.benchmark.rulePaths, ∀ check ∈ p.1.checks,
      ∀ system ∈ check.systems, callbacksBySysname added system = [] :=
    fun p hp check hcheck system hs => List.filter_eq_nil_iff.2 fun cb hcb hsys =>
      (hadded cb hcb).1 p hp check hcheck (of_decide_eq_true hsys ▸ hs)
  obtain ⟨h₁, h₂⟩ := evaluateSelects_addCallbacks model policy env (fun cb hcb => (hadded cb hcb).2)
    hfree policy.selects (XccdfRun.SameButHooks.refl { s with ruleResults := [] })
  rw [XccdfPolicyModel.foldl_addCallback]
  dsimp only [xccdfPolicyEvaluate]
  generalize xccdfPolicyEvaluateSelects model policy env policy.selects
    { s with ruleResults := [] } = r₁ at h₁ h₂ ⊢
  generalize xccdfPolicyEvaluateSelects (model.addCallbacks added) policy env policy.selects
    { s with ruleResults := [] } = r₂ at h₁ h₂ ⊢
  rw [h₁, XccdfPolicyModel.addCallbacks_benchmark, h₂.2.1]
  split_ifs
  · exact ⟨rfl, rfl, h₂⟩
  · exact ⟨rfl, rfl, h₂⟩

/-- An output hook that only observes. -/
def observingHook : XccdfCallback Unit :=
  { system := outputSystem, callback := fun w _ => (0, w), queryFn := none }

theorem evaluate_addCallbacks_observingHook :
    (∀ cb ∈ [observingHook],
      (∀ p ∈ oneRuleModel.benchmark.rulePaths, ∀ check ∈ p.1.checks,
        cb.system ∉ check.systems) ∧
        (cb.system = startSystem ∨ cb.system = outputSystem → cb.Passive)) ∧
    (xccdfPolicyEvaluate ([observingHook].foldl XccdfPolicyModel.addCallback oneRuleModel)
        (xccdfPolicyNew oneRuleBenchmark emptyProfile) plainEnvironment ⟨(), [], []⟩).1 =
      (xccdfPolicyEvaluate oneRuleModel (xccdfPolicyNew oneRuleBenchmark emptyProfile)
        plainEnvironment ⟨(), [], []⟩).1 ∧
    (xccdfPolicyEvaluate ([observingHook].foldl XccdfPolicyModel.addCallback oneRuleModel)
        (xccdfPolicyNew oneRuleBenchmark emptyProfile) plainEnvironment ⟨(), [], []⟩).2.1 =
      (xccdfPolicyEvaluate oneRuleModel (xccdfPolicyNew oneRuleBenchmark emptyProfile)
        plainEnvironment ⟨(), [], []⟩).2.1 ∧
    (xccdfPolicyEvaluate oneRuleModel (xccdfPolicyNew oneRuleBenchmark emptyProfile)
        plainEnvironment ⟨(), [], []⟩).2.2.SameButHooks
      (xccdfPolicyEvaluate ([observingHook].foldl XccdfPolicyModel.addCallback oneRuleModel)
        (xccdfPolicyNew oneRuleBenchmark emptyProfile) plainEnvironment ⟨(), [], []⟩).2.2 :=
  have hadded : ∀ cb ∈ [observingHook],
      (∀ p ∈ oneRuleModel.benchmark.rulePaths, ∀ check ∈ p.1.checks,
        cb.system ∉ check.systems) ∧
        (cb.system = startSystem ∨ cb.system = outputSystem → cb.Passive) := by
    simp only [List.mem_singleton, forall_eq]
    exact ⟨by decide, fun _ _ _ => rfl⟩
  ⟨hadded, evaluate_addCallbacks oneRuleModel _ plainEnvironment ⟨(), [], []⟩ _ hadded⟩

end Xccdf
