import XccdfPolicy.Evaluate

/-!
# The policy model: its policies, its callbacks and what its policies collect

`xccdf_policy_model_new` builds a policy for the Benchmark without a profile (the default
policy), then one per profile of the Benchmark, in document order, and
`xccdf_policy_model_get_policy_by_id` finds a policy by the id of its profile. Engines, start
hooks and output hooks are added to one list of callbacks, in registration order. A policy
collects the TestResult of each evaluation, which `xccdf_policy_get_result_by_id` finds by id,
and `xccdf_policy_get_selected_rules` lists the selects of selected Rules.

* `getPolicyById_modelNew`: in a new model the lookup without an id finds the default policy,
  and the lookup of an id the policy of the first profile with that id.
* `itemIsApplicable_addCpeSource`: adding a CPE language model never makes an applicable item
  inapplicable, nor does adding a CPE dictionary when no language model's platform negates a
  CPE name.
* `ruleGetApplicableCheck_addCallback`: registering a callback of system `S` (engine or hook)
  changes the check chosen for a Rule only to a check of system `S`.
* `mem_getSelectedRules_policyNew`: a Rule of a new policy is listed as selected when its
  effective selection holds, or when a later select of the profile for it is set: those are
  not and-ed with the Groups above the Rule.
* `getSelectedRules_policyNew_single`: for a Rule the profile names at most once, the list
  holds it once when the evaluation runs it and not at all otherwise.
* `EvaluateRun.results_spec`: over any run of `xccdf_policy_evaluate` calls, the policy keeps
  its profile and selects, and its TestResults are the ones the calls returned, in call order,
  all with the id of the profile.
* `getResultById_evaluateRun`: after any run on a new policy, the lookup by id finds the first
  TestResult, never a later one.
-/

namespace Xccdf

variable {σ : Type}

/-! ## The policies of a model -/

/-- `xccdf_policy_get_id(policy)`: the id of the policy's profile. -/
def xccdfPolicyGetId (policy : XccdfPolicy) : Option String :=
  policy.profile.id

/-- `xccdf_policy_model_new(benchmark)`: a policy for a profile without an id (the source's
"No profile (default benchmark)"), then one for each profile of the Benchmark in document
order; no callback, CPE dictionary or language model yet. `xccdf_benchmark_resolve` is not
under src/ and is left out. -/
def xccdfPolicyModelNew (benchmark : XccdfBenchmark) : XccdfPolicyModel σ :=
  { benchmark := benchmark,
    policies := xccdfPolicyNew benchmark emptyProfile ::
      benchmark.profiles.map (xccdfPolicyNew benchmark),
    callbacks := [], cpeDicts := [], cpeLangModels := [] }

/-- `xccdf_policy_model_get_policy_by_id(model, id)`: for a `NULL` id the first policy whose
id is `NULL`; otherwise the first policy with that id, skipping those without one. -/
def xccdfPolicyModelGetPolicyById (model : XccdfPolicyModel σ) :
    Option String → Option XccdfPolicy
  | none => model.policies.find? fun policy => (xccdfPolicyGetId policy).isNone
  | some id => model.policies.find? fun policy =>
      match xccdfPolicyGetId policy with
      | none => false
      | some policyId => policyId = id

@[simp]
theorem xccdfPolicyNew_profile (benchmark : XccdfBenchmark) (profile : XccdfProfile) :
    (xccdfPolicyNew benchmark profile).profile = profile := rfl

@[simp]
theorem xccdfPolicyNew_results (benchmark : XccdfBenchmark) (profile : XccdfProfile) :
    (xccdfPolicyNew benchmark profile).results = [] := rfl

@[simp]
theorem xccdfPolicyGetId_policyNew (benchmark : XccdfBenchmark) (profile : XccdfProfile) :
    xccdfPolicyGetId (xccdfPolicyNew benchmark profile) = profile.id := rfl

/-- Both branches of the lookup find the first policy whose id is the one asked for. -/
theorem getPolicyById_eq_find (model : XccdfPolicyModel σ) (id : Option String) :
    xccdfPolicyModelGetPolicyById model id =
      model.policies.find? fun policy => xccdfPolicyGetId policy = id := by
  cases id <;> simp only [xccdfPolicyModelGetPolicyById] <;> congr <;> funext policy <;>
    cases xccdfPolicyGetId policy <;> simp

/-- After `xccdf_policy_model_new`, the lookup without an id finds the default policy, and the
lookup of an id finds the policy of the first profile of the Benchmark with that id, or none
when no profile has it. -/
theorem getPolicyById_modelNew (benchmark : XccdfBenchmark) :
    xccdfPolicyModelGetPolicyById (xccdfPolicyModelNew benchmark : XccdfPolicyModel σ) none =
        some (xccdfPolicyNew benchmark emptyProfile) ∧
      ∀ id : String,
        xccdfPolicyModelGetPolicyById (xccdfPolicyModelNew benchmark : XccdfPolicyModel σ)
            (some id) =
          (benchmark.profiles.find? (·.id = some id)).map (xccdfPolicyNew benchmark) := by
  refine ⟨by simp [getPolicyById_eq_find, xccdfPolicyModelNew, emptyProfile], fun id => ?_⟩
  simp [getPolicyById_eq_find, xccdfPolicyModelNew, List.find?_map, emptyProfile,
    Function.comp_def]

/-! ## Callbacks -/

/-- `oscap_list_add(model->callbacks, cb)`: the callback goes last. -/
def XccdfPolicyModel.addCallback (model : XccdfPolicyModel σ) (cb : XccdfCallback σ) :
    XccdfPolicyModel σ :=
  { model with callbacks := model.callbacks ++ [cb] }

/-- `xccdf_policy_model_register_engine_and_query_callback(model, sys, func, usr, query_fn)`:
an engine of system `sys`. The user data `usr` is part of the world `σ` of `func`. -/
def xccdfPolicyModelRegisterEngineAndQueryCallback (model : XccdfPolicyModel σ) (sys : String)
    (func : σ → XccdfCallbackArg → Int × σ)
    (queryFn : Option (σ → String → Option (List String) × σ)) : XccdfPolicyModel σ :=
  model.addCallback { system := sys, callback := func, queryFn := queryFn }

/-- `xccdf_policy_model_register_engine_callback(model, sys, func, usr)`: an engine without
`query_fn`. -/
def xccdfPolicyModelRegisterEngineCallback (model : XccdfPolicyModel σ) (sys : String)
    (func : σ → XccdfCallbackArg → Int × σ) : XccdfPolicyModel σ :=
  xccdfPolicyModelRegisterEngineAndQueryCallback model sys func none

/-- `xccdf_policy_model_register_start_callback(model, func, usr)`: a hook of the start
system. A `callback_out` has no `query_fn` field; the model gives the hook none. -/
def xccdfPolicyModelRegisterStartCallback (model : XccdfPolicyModel σ)
    (func : σ → XccdfCallbackArg → Int × σ) : XccdfPolicyModel σ :=
  model.addCallback { system := startSystem, callback := func, queryFn := none }

/-- `xccdf_policy_model_register_output_callback(model, func, usr)`: a hook of the output
system. -/
def xccdfPolicyModelRegisterOutputCallback (model : XccdfPolicyModel σ)
    (func : σ → XccdfCallbackArg → Int × σ) : XccdfPolicyModel σ :=
  model.addCallback { system := outputSystem, callback := func, queryFn := none }

/-- `xccdf_policy_model_add_cpe_dict(model, cpe_dict)`, given the dictionary
`cpe_dict_model_import` reads (not under src/). -/
def xccdfPolicyModelAddCpeDict (model : XccdfPolicyModel σ) (dict : CpeDictModel) :
    XccdfPolicyModel σ :=
  { model with cpeDicts := model.cpeDicts ++ [dict] }

/-- `xccdf_policy_model_add_cpe_lang_model(model, cpe_lang)`, given the language model
`cpe_lang_model_import` reads (not under src/). -/
def xccdfPolicyModelAddCpeLangModel (model : XccdfPolicyModel σ) (langModel : CpeLangModel) :
    XccdfPolicyModel σ :=
  { model with cpeLangModels := model.cpeLangModels ++ [langModel] }

/-- `cpe_platform_applicable_lang_model` accepts a platform for every CPE-name test that
accepts at least the names a test it accepts the platform for accepts: the platforms it tests
negate no CPE name. -/
def XccdfEnvironment.LangModelMonotone (env : XccdfEnvironment) : Prop :=
  ∀ platform langModel (test test' : String → Bool),
    (∀ name, test name = true → test' name = true) →
    env.cpePlatformApplicableLangModel platform langModel test = true →
    env.cpePlatformApplicableLangModel platform langModel test' = true

/-- An added language model accepts on top of the sources already there, and so does an added
dictionary when no language model's platform negates a CPE name: `_xccdf_policy_cpe_dict_cb`
then accepts every CPE name it accepted. -/
theorem platformsApplicable_addCpeSource (model : XccdfPolicyModel σ) (env : XccdfEnvironment)
    (platforms : List String) (h : platformsApplicable model env platforms = true) :
    (∀ langModel,
        platformsApplicable (xccdfPolicyModelAddCpeLangModel model langModel) env platforms =
          true) ∧
      (env.LangModelMonotone →
        ∀ dict,
          platformsApplicable (xccdfPolicyModelAddCpeDict model dict) env platforms = true) := by
  rw [platformsApplicable_iff] at h
  refine ⟨fun langModel => (platformsApplicable_iff _ _ _).2 (h.imp_right ?_),
    fun hmono dict => (platformsApplicable_iff _ _ _).2 (h.imp_right ?_)⟩
  · rintro ⟨p, hp, ⟨lm, hlm, hacc⟩ | hacc⟩
    · exact ⟨p, hp, .inl ⟨lm,
        List.mem_append.2 ((List.mem_append.1 hlm).imp_right (List.mem_append_left _)), hacc⟩⟩
    · exact ⟨p, hp, .inr hacc⟩
  · have hdicts : ∀ d ∈ model.benchmark.cpeList.toList ++ model.cpeDicts,
        d ∈ model.benchmark.cpeList.toList ++ (xccdfPolicyModelAddCpeDict model dict).cpeDicts :=
      fun d hd => List.mem_append.2 ((List.mem_append.1 hd).imp_right (List.mem_append_left _))
    rintro ⟨p, hp, ⟨lm, hlm, hacc⟩ | ⟨hc, d, hd, hacc⟩⟩
    · refine ⟨p, hp, .inl ⟨lm, hlm, hmono _ _ _ _ (fun name hname => ?_) hacc⟩⟩
      obtain ⟨d, hd, hname⟩ := List.any_eq_true.1 hname
      exact List.any_eq_true.2 ⟨d, hdicts d hd, hname⟩
    · exact ⟨p, hp, .inr ⟨hc, d, hdicts d hd, hacc⟩⟩

/-- Adding a CPE language model (`xccdf_policy_model_add_cpe_lang_model`) to a policy model
never makes an applicable item inapplicable: the sources are or-ed, parent by parent. Neither
does adding a CPE dictionary (`xccdf_policy_model_add_cpe_dict`) when no language model's
platform negates a CPE name: `_xccdf_policy_cpe_dict_cb` hands the language models every
dictionary of the model. -/
theorem itemIsApplicable_addCpeSource (model : XccdfPolicyModel σ) (env : XccdfEnvironment) :
    ∀ chain : List (List String), xccdfPolicyModelItemIsApplicable model env chain = true →
      (∀ langModel, xccdfPolicyModelItemIsApplicable
          (xccdfPolicyModelAddCpeLangModel model langModel) env chain = true) ∧
        (env.LangModelMonotone → ∀ dict, xccdfPolicyModelItemIsApplicable
          (xccdfPolicyModelAddCpeDict model dict) env chain = true)
  | [], _ => ⟨fun _ => rfl, fun _ _ => rfl⟩
  | platforms :: parents, h => by
    simp only [xccdfPolicyModelItemIsApplicable_cons, Bool.and_eq_true] at h ⊢
    obtain ⟨hparents, hplatforms⟩ := h
    obtain ⟨ihLang, ihDict⟩ := itemIsApplicable_addCpeSource model env parents hparents
    obtain ⟨hLang, hDict⟩ := platformsApplicable_addCpeSource model env platforms hplatforms
    exact ⟨fun langModel => ⟨ihLang langModel, hLang langModel⟩,
      fun hmono dict => ⟨ihDict hmono dict, hDict hmono dict⟩⟩

/-- An environment whose CPE language models accept a platform exactly when the CPE-name test
accepts the platform's id, and whose CPE dictionaries accept every CPE name. -/
def acceptingEnvironment : XccdfEnvironment :=
  { plainEnvironment with
    cpePlatformApplicableLangModel := fun platform _ test => test platform,
    cpeNameApplicableDict := fun _ _ => true }

/-- `groupedRuleModel` with an external CPE dictionary and an external language model of the
platform `p`. -/
def cpeSourcedModel : XccdfPolicyModel Unit :=
  { groupedRuleModel with cpeDicts := [⟨none, []⟩], cpeLangModels := [⟨["p"]⟩] }

theorem itemIsApplicable_addCpeSource_groupedRule :
    let chain := platformChain groupedRuleBenchmark (plainRule "r").platforms
      [⟨"g", 1, true, ["#p"]⟩]
    xccdfPolicyModelItemIsApplicable cpeSourcedModel acceptingEnvironment chain = true ∧
      acceptingEnvironment.LangModelMonotone ∧
      (∀ langModel, xccdfPolicyModelItemIsApplicable
          (xccdfPolicyModelAddCpeLangModel cpeSourcedModel langModel) acceptingEnvironment chain =
        true) ∧
      ∀ dict, xccdfPolicyModelItemIsApplicable (xccdfPolicyModelAddCpeDict cpeSourcedModel dict)
        acceptingEnvironment chain = true :=
  have happ : xccdfPolicyModelItemIsApplicable cpeSourcedModel acceptingEnvironment
      (platformChain groupedRuleBenchmark (plainRule "r").platforms [⟨"g", 1, true, ["#p"]⟩]) =
        true := by
    decide
  have hmono : acceptingEnvironment.LangModelMonotone := fun _ _ _ _ h hacc => h _ hacc
  have h := itemIsApplicable_addCpeSource cpeSourcedModel acceptingEnvironment _ happ
  ⟨happ, hmono, h.1, h.2 hmono⟩

/-- The last element satisfying `p || q` is the last satisfying `p`, or one satisfying `q`. -/
theorem getLast?_filter_or {α : Type} (p q : α → Bool) (l : List α) :
    (l.filter fun a => p a || q a).getLast? = (l.filter p).getLast? ∨
      ∃ a, (l.filter fun a => p a || q a).getLast? = some a ∧ q a = true := by
  induction l using List.reverseRecOn with
  | nil => exact .inl rfl
  | append_singleton l a ih =>
    by_cases hp : p a
    · exact .inl (by simp [List.filter_append, hp])
    · by_cases hq : q a
      · exact .inr ⟨a, by simp [List.filter_append, hq], hq⟩
      · simpa [List.filter_append, hp, hq] using ih

/-- Registering a callback of system `S`, an engine or a hook, leaves the check chosen for a
Rule as it was, or makes it a simple check of system `S`: a later registration can only pull
a Rule over to its own system. -/
theorem ruleGetApplicableCheck_addCallback (model : XccdfPolicyModel σ) (policy : XccdfPolicy)
    (cb : XccdfCallback σ) (rule : XccdfRule) :
    xccdfPolicyRuleGetApplicableCheck (model.addCallback cb) policy rule =
        xccdfPolicyRuleGetApplicableCheck model policy rule ∨
      ∃ check, xccdfPolicyRuleGetApplicableCheck (model.addCallback cb) policy rule =
        some check ∧ check.system = some cb.system := by
  have hregistered : ∀ check : XccdfCheck,
      (check.system.any fun system => (model.callbacks ++ [cb]).any (·.system = system)) =
        ((check.system.any fun system => model.callbacks.any (·.system = system)) ||
          decide (check.system = some cb.system)) := by
    intro check
    rcases check.system with _ | system
    · rfl
    · by_cases hs : system = cb.system <;> simp [hs, eq_comm]
  simp only [xccdfPolicyRuleGetApplicableCheck, applicableCheckLoop_eq,
    XccdfPolicyModel.addCallback, hregistered]
  split
  · exact .inl rfl
  · exact (getLast?_filter_or _ _ _).imp id fun ⟨check, hcheck, hsys⟩ =>
      ⟨check, hcheck, of_decide_eq_true hsys⟩

/-! ## The selected Rules -/

/-- `xccdf_policy_filter_selected(select, policy)`: the select names a Rule of the Benchmark
(an unknown id gives false) and is selected. -/
def xccdfPolicyFilterSelected (benchmark : XccdfBenchmark) (sel : XccdfSelect) : Bool :=
  benchmark.isRule sel.item && sel.selected

/-- `xccdf_policy_get_selected_rules(policy)`: the selects that pass
`xccdf_policy_filter_selected`, in list order. -/
def xccdfPolicyGetSelectedRules (benchmark : XccdfBenchmark) (policy : XccdfPolicy) :
    List XccdfSelect :=
  policy.selects.filter (xccdfPolicyFilterSelected benchmark)

/-- The selected-Rule entries of a Rule of the Benchmark are its set entries. -/
theorem selectsFor_getSelectedRules (benchmark : XccdfBenchmark) (policy : XccdfPolicy)
    {p : XccdfRule × List XccdfGroup} (hp : p ∈ benchmark.rulePaths) :
    selectsFor (xccdfPolicyGetSelectedRules benchmark policy) p.1.id =
      (selectsFor policy.selects p.1.id).filter (·.selected) := by
  have hrule := benchmark.isRule_of_mem_rulePaths hp
  simp only [selectsFor, xccdfPolicyGetSelectedRules, List.filter_filter]
  congr 1
  funext sel
  by_cases hs : sel.item = p.1.id <;> simp [xccdfPolicyFilterSelected, hs, hrule]

/-- `eff(R)` with the Rule's own selection read off its first select in the profile. -/
theorem effectiveSelected_eq (profile : XccdfProfile) (rule : XccdfRule)
    (path : List XccdfGroup) :
    effectiveSelected profile rule path =
      ((path.all fun g => profileSelected profile g.id g.selected) &&
        ((selectsFor profile.selects rule.id).head?.map (·.selected)).getD rule.selected) := by
  rw [effectiveSelected]
  congr 1
  simp only [profileSelected, selectedOr, findSelect_eq_head]
  cases (selectsFor profile.selects rule.id).head? <;> rfl

/-- In a new policy a Rule of the Benchmark is listed by `xccdf_policy_get_selected_rules`
exactly when its effective selection holds or a later select of the profile for it is set:
`xccdf_policy_resolve_item` and-s only the first select of a Rule with the Groups above it. -/
theorem mem_getSelectedRules_policyNew (benchmark : XccdfBenchmark) (profile : XccdfProfile)
    {p : XccdfRule × List XccdfGroup} (hp : p ∈ benchmark.rulePaths) :
    p.1.id ∈ (xccdfPolicyGetSelectedRules benchmark (xccdfPolicyNew benchmark profile)).map
        (·.item) ↔
      effectiveSelected profile p.1 p.2 = true ∨
        ∃ sel ∈ (selectsFor profile.selects p.1.id).tail, sel.selected = true := by
  have hmem : ∀ selects : List XccdfSelect,
      p.1.id ∈ selects.map (·.item) ↔ selectsFor selects p.1.id ≠ [] := by
    intro selects
    simp [selectsFor, List.filter_eq_nil_iff]
  rw [hmem, selectsFor_getSelectedRules benchmark _ hp, selectsFor_policyNew benchmark profile hp,
    effectiveSelected_eq]
  generalize (p.2.all fun g => profileSelected profile g.id g.selected) = flag
  cases selectsFor profile.selects p.1.id with
  | nil => cases flag <;> cases p.1.selected <;> simp [resolvedEntries]
  | cons sel rest =>
    cases flag <;> cases hs : sel.selected <;> simp [resolvedEntries, hs, List.filter_eq_nil_iff]

/-- A profile that selects `r` twice. -/
def twiceOnProfile : XccdfProfile :=
  { emptyProfile with
    selects := [{ item := "r", selected := true }, { item := "r", selected := true }] }

theorem mem_getSelectedRules_deselectedGroup :
    let p := (plainRule "r", [{ id := "g", weight := 1, selected := false, platforms := [] }])
    p ∈ deselectedGroupBenchmark.rulePaths ∧
      (p.1.id ∈ (xccdfPolicyGetSelectedRules deselectedGroupBenchmark
          (xccdfPolicyNew deselectedGroupBenchmark twiceOnProfile)).map (·.item) ↔
        effectiveSelected twiceOnProfile p.1 p.2 = true ∨
          ∃ sel ∈ (selectsFor twiceOnProfile.selects p.1.id).tail, sel.selected = true) :=
  have hp : (plainRule "r", [{ id := "g", weight := 1, selected := false, platforms := [] }]) ∈
      deselectedGroupBenchmark.rulePaths := by
    simp [deselectedGroupBenchmark, XccdfBenchmark.rulePaths, XccdfItem.listRulePaths,
      XccdfItem.rulePaths]
  ⟨hp, mem_getSelectedRules_policyNew deselectedGroupBenchmark twiceOnProfile hp⟩

/-- For a Rule the profile names at most once, `xccdf_policy_get_selected_rules` of a new policy
lists it once when the evaluation runs it (`_xccdf_policy_is_rule_selected`) and not at all
otherwise. -/
theorem getSelectedRules_policyNew_single (benchmark : XccdfBenchmark) (profile : XccdfProfile)
    {p : XccdfRule × List XccdfGroup} (hp : p ∈ benchmark.rulePaths)
    (hsingle : (selectsFor profile.selects p.1.id).length ≤ 1) :
    (selectsFor (xccdfPolicyGetSelectedRules benchmark (xccdfPolicyNew benchmark profile))
        p.1.id).length =
      if xccdfPolicyIsRuleSelected (xccdfPolicyNew benchmark profile) p.1 then 1 else 0 := by
  rw [selectsFor_getSelectedRules benchmark _ hp, selectsFor_policyNew benchmark profile hp,
    isRuleSelected_policyNew benchmark profile hp, effectiveSelected_eq]
  generalize (p.2.all fun g => profileSelected profile g.id g.selected) = flag
  rcases hsel : selectsFor profile.selects p.1.id with _ | ⟨sel, _ | ⟨sel', rest⟩⟩
  · cases flag <;> cases p.1.selected <;> simp [resolvedEntries]
  · cases flag <;> cases hs : sel.selected <;> simp [resolvedEntries, hs]
  · simp [hsel] at hsingle

/-- A profile that selects `r` once. -/
def onceOnProfile : XccdfProfile :=
  { emptyProfile with selects := [{ item := "r", selected := true }] }

theorem getSelectedRules_policyNew_single_deselectedGroup :
    let p := (plainRule "r", [{ id := "g", weight := 1, selected := false, platforms := [] }])
    p ∈ deselectedGroupBenchmark.rulePaths ∧
      (selectsFor onceOnProfile.selects p.1.id).length ≤ 1 ∧
      (selectsFor (xccdfPolicyGetSelectedRules deselectedGroupBenchmark
          (xccdfPolicyNew deselectedGroupBenchmark onceOnProfile)) p.1.id).length =
        if xccdfPolicyIsRuleSelected (xccdfPolicyNew deselectedGroupBenchmark onceOnProfile) p.1
        then 1 else 0 :=
  have hp : (plainRule "r", [{ id := "g", weight := 1, selected := false, platforms := [] }]) ∈
      deselectedGroupBenchmark.rulePaths := by
    simp [deselectedGroupBenchmark, XccdfBenchmark.rulePaths, XccdfItem.listRulePaths,
      XccdfItem.rulePaths]
  have hsingle : (selectsFor onceOnProfile.selects (plainRule "r").id).length ≤ 1 := by decide
  ⟨hp, hsingle,
    getSelectedRules_policyNew_single deselectedGroupBenchmark onceOnProfile hp hsingle⟩

/-! ## The TestResults of a policy -/

/-- `xccdf_policy_get_result_by_id(policy, id)`: the first TestResult of the policy with the
id. -/
def xccdfPolicyGetResultById (policy : XccdfPolicy) (id : String) : Option XccdfResult :=
  policy.results.find? (·.id = id)

/-- The runs of `xccdf_policy_evaluate` on a policy of `model` from `start`, each call from any
run state, with the TestResults the calls returned so far. -/
inductive EvaluateRun (model : XccdfPolicyModel σ) (env : XccdfEnvironment) (start : XccdfPolicy) :
    XccdfPolicy → List XccdfResult → Prop
  | nil : EvaluateRun model env start start []
  | call {policy : XccdfPolicy} {returned : List XccdfResult} (s : XccdfRun σ) :
      EvaluateRun model env start policy returned →
      EvaluateRun model env start (xccdfPolicyEvaluate model policy env s).2.1
        (returned ++ (xccdfPolicyEvaluate model policy env s).1.toList)

/-- One call of `xccdf_policy_evaluate`: the policy gains the returned TestResult, if any, and
nothing else; that TestResult has the id of the policy's profile. -/
theorem evaluate_policy (model : XccdfPolicyModel σ) (policy : XccdfPolicy)
    (env : XccdfEnvironment) (s : XccdfRun σ) :
    (xccdfPolicyEvaluate model policy env s).2.1 =
        { policy with results :=
          policy.results ++ (xccdfPolicyEvaluate model policy env s).1.toList } ∧
      ∀ result ∈ (xccdfPolicyEvaluate model policy env s).1,
        result.id = xccdfPolicyTestResultId env model.benchmark policy.profile := by
  dsimp only [xccdfPolicyEvaluate]
  split <;> simp

/-- A run of `xccdf_policy_evaluate` calls appends the TestResults it returns, each with the id
of the profile, to those the policy started with. -/
theorem EvaluateRun.results_spec {model : XccdfPolicyModel σ} {env : XccdfEnvironment}
    {start policy : XccdfPolicy} {returned : List XccdfResult}
    (hrun : EvaluateRun model env start policy returned) :
    policy = { start with results := start.results ++ returned } ∧
      ∀ result ∈ returned,
        result.id = xccdfPolicyTestResultId env model.benchmark start.profile := by
  induction hrun with
  | nil => simp
  | call s _ ih =>
    obtain ⟨rfl, hids⟩ := ih
    obtain ⟨hpolicy, hid⟩ := evaluate_policy model _ env s
    refine ⟨by rw [hpolicy, List.append_assoc], fun result hresult => ?_⟩
    rcases List.mem_append.mp hresult with hold | hnew
    · exact hids result hold
    · exact hid result (Option.mem_toList.mp hnew)

/-- After any run of `xccdf_policy_evaluate` calls on a new policy, the lookup by id finds the
first TestResult for the id of the policy's profile and nothing for any other id: the
TestResults of later calls carry the same id and are never found. -/
theorem getResultById_evaluateRun {model : XccdfPolicyModel σ} {env : XccdfEnvironment}
    {profile : XccdfProfile} {policy : XccdfPolicy} {returned : List XccdfResult}
    (hrun : EvaluateRun model env (xccdfPolicyNew model.benchmark profile) policy returned)
    (id : String) :
    xccdfPolicyGetResultById policy id =
      if id = xccdfPolicyTestResultId env model.benchmark profile then returned.head?
      else none := by
  obtain ⟨rfl, hids⟩ := hrun.results_spec
  simp only [xccdfPolicyNew_profile] at hids
  simp only [xccdfPolicyGetResultById, xccdfPolicyNew_results, List.nil_append]
  split
  · rename_i hid
    cases returned with
    | nil => rfl
    | cons result _ => simp [hids result (List.mem_cons_self _ _), hid]
  · rename_i hid
    exact List.find?_eq_none.mpr fun result hresult => by simp [hids result hresult, Ne.symm hid]

theorem getResultById_evaluateRun_twoCalls :
    let policy := xccdfPolicyNew twoRuleModel.benchmark emptyProfile
    let first := xccdfPolicyEvaluate twoRuleModel policy plainEnvironment ⟨(), [], []⟩
    let second := xccdfPolicyEvaluate twoRuleModel first.2.1 plainEnvironment first.2.2
    xccdfPolicyGetResultById second.2.1 "xccdf_org.open-scap_testresult_default-profile" =
      if "xccdf_org.open-scap_testresult_default-profile" =
          xccdfPolicyTestResultId plainEnvironment twoRuleModel.benchmark emptyProfile
      then ([] ++ first.1.toList ++ second.1.toList).head?
      else none :=
  getResultById_evaluateRun (.call _ (.call _ .nil)) _

end Xccdf
