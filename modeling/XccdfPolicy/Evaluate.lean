import XccdfPolicy.Rule
import Mathlib.Data.String.Basic

/-!
# `xccdf_policy_evaluate`

The evaluation walks the policy's select list, not the Benchmark: each select whose id names a
Rule of the Benchmark evaluates that Rule; selects of Groups, of Values and of unknown ids are
skipped. A non-zero answer from a Rule stops the walk, and `-1` discards the TestResult.

The select list of a new policy is the profile's selects followed by the Rules no select names,
in document order (`xccdfPolicyNew`), so RuleResults come in profile order first.

* `testResultId_rid`: the TestResult id and the buffer it is formatted into; the pre-1.2
  buffer is one byte short.
* `evaluate_policyNew_idrefs`: the RuleResults of a new policy's TestResult, in order.
-/

namespace Xccdf

variable {σ : Type} (model : XccdfPolicyModel σ) (policy : XccdfPolicy) (env : XccdfEnvironment)

/-- The id `xccdf_policy_evaluate` gives the TestResult: the profile id (`default-profile`
without one) after `xccdf_org.open-scap_testresult_` when `strverscmp("1.2", version) >= 0`,
after `OSCAP-Test-` otherwise. -/
def xccdfPolicyTestResultId (benchmark : XccdfBenchmark) (profile : XccdfProfile) : String :=
  let id := profile.id.getD "default-profile"
  if env.strverscmp "1.2" benchmark.schemaVersion ≥ 0 then
    "xccdf_org.open-scap_testresult_" ++ id
  else "OSCAP-Test-" ++ id

/-- The length `xccdf_policy_evaluate` gives the buffer `rid` it formats the TestResult id
into: `32 + strlen(id)` in the 1.2 branch, `11 + strlen(id)` in the other. -/
def xccdfPolicyTestResultRidSize (benchmark : XccdfBenchmark) (profile : XccdfProfile) : Nat :=
  let id := profile.id.getD "default-profile"
  if env.strverscmp "1.2" benchmark.schemaVersion ≥ 0 then 32 + id.utf8ByteSize
  else 11 + id.utf8ByteSize

theorem utf8ByteSize_append (s t : String) :
    (s ++ t).utf8ByteSize = s.utf8ByteSize + t.utf8ByteSize := by
  cases s; cases t
  exact String.utf8Len_append _ _

/-- The TestResult id is `xccdf_org.open-scap_testresult_` and the profile id when
`strverscmp("1.2", version) ≥ 0`, that is when the schema version is at most `1.2`, and
`OSCAP-Test-` and the profile id otherwise. The first buffer holds the id and its NUL exactly;
the second is one byte short, whatever the profile id. -/
theorem testResultId_rid (benchmark : XccdfBenchmark) (profile : XccdfProfile) :
    let id := profile.id.getD "default-profile"
    (0 ≤ env.strverscmp "1.2" benchmark.schemaVersion →
      xccdfPolicyTestResultId env benchmark profile = "xccdf_org.open-scap_testresult_" ++ id ∧
        (xccdfPolicyTestResultId env benchmark profile).utf8ByteSize + 1 =
          xccdfPolicyTestResultRidSize env benchmark profile) ∧
    (env.strverscmp "1.2" benchmark.schemaVersion < 0 →
      xccdfPolicyTestResultId env benchmark profile = "OSCAP-Test-" ++ id ∧
        (xccdfPolicyTestResultId env benchmark profile).utf8ByteSize + 1 =
          xccdfPolicyTestResultRidSize env benchmark profile + 1) := by
  intro id
  have hxccdf : ("xccdf_org.open-scap_testresult_" : String).utf8ByteSize = 31 := by decide
  have hoscap : ("OSCAP-Test-" : String).utf8ByteSize = 11 := by decide
  refine ⟨fun hge => ?_, fun hlt => ?_⟩
  · simp only [xccdfPolicyTestResultId, xccdfPolicyTestResultRidSize, ge_iff_le, if_pos hge,
      utf8ByteSize_append, hxccdf, true_and]
    omega
  · have hnot : ¬0 ≤ env.strverscmp "1.2" benchmark.schemaVersion := by omega
    simp only [xccdfPolicyTestResultId, xccdfPolicyTestResultRidSize, ge_iff_le, if_neg hnot,
      utf8ByteSize_append, hoscap, and_self]

/-- The loop of `xccdf_policy_evaluate` over the selects: the answer that stopped it, `0` when
it went through. -/
def xccdfPolicyEvaluateSelects : List XccdfSelect → XccdfRun σ → Int × XccdfRun σ
  | [], s => (0, s)
  | sel :: sels, s =>
    match model.benchmark.getItem sel.item with
    | some (.rule r, path) =>
      let r := xccdfPolicyRuleEvaluate model policy env r path s
      if r.1 = 0 then xccdfPolicyEvaluateSelects sels r.2 else r
    | _ => xccdfPolicyEvaluateSelects sels s

/-- `xccdf_policy_evaluate(policy)`: the TestResult (`NULL` when the walk stopped on `-1`), the
policy with the TestResult added, and the run. -/
def xccdfPolicyEvaluate (s : XccdfRun σ) : Option XccdfResult × XccdfPolicy × XccdfRun σ :=
  let r := xccdfPolicyEvaluateSelects model policy env policy.selects { s with ruleResults := [] }
  if r.1 = -1 then (none, policy, r.2)
  else
    let result : XccdfResult :=
      { id := xccdfPolicyTestResultId env model.benchmark policy.profile,
        ruleResults := r.2.ruleResults }
    (some result, { policy with results := policy.results ++ [result] }, r.2)

/-! ## The RuleResults of a TestResult -/

section OneRuleResult

variable (hhooks : HooksPass model.callbacks) (hengines : NoEngineAbort model.callbacks)
  (hcodes : EngineCodes model.callbacks) (hnames : NamesAtMostOne model.callbacks)
include hhooks hengines hcodes hnames

/-- Under passing hooks, engines that answer non-negative codes and no multi-check expansion, the
loop
adds one RuleResult for each select of a Rule, in the order of the selects, unless a Rule
reports an uninitialised `-1`. -/
theorem evaluateSelects_idrefs :
    ∀ (sels : List XccdfSelect) (s : XccdfRun σ),
      let r := xccdfPolicyEvaluateSelects model policy env sels s
      (r.1 = 0 ∧ r.2.ruleResults.map (·.idref) =
          s.ruleResults.map (·.idref) ++ (sels.map (·.item)).filter model.benchmark.isRule) ∨
        (r.1 = -1 ∧ env.uninitialisedRet = -1)
  | [], s => .inl ⟨rfl, by simp [xccdfPolicyEvaluateSelects]⟩
  | sel :: sels, s => by
    unfold xccdfPolicyEvaluateSelects
    split
    · rename_i rule path hitem
      have hid : rule.id = sel.item := model.benchmark.getItem_id hitem
      have hrule : model.benchmark.isRule sel.item = true := by
        simp [XccdfBenchmark.isRule, hitem]
      rcases ruleEvaluate_one model policy env hhooks hengines hcodes hnames rule path s with
        ⟨h0, ruleResult, hidref, hrr⟩ | habort
      · dsimp only
        rw [if_pos h0]
        refine (evaluateSelects_idrefs sels _).imp_left fun ⟨h1, h2⟩ => ⟨h1, ?_⟩
        simp [h2, hrr, hidref, hid, hrule]
      · dsimp only
        rw [if_neg (by rw [habort.1]; decide)]
        exact .inr habort
    · rename_i hnot
      have hrule : model.benchmark.isRule sel.item = false := by
        unfold XccdfBenchmark.isRule
        split
        · rename_i rule path hitem
          exact absurd hitem (hnot rule path)
        · rfl
      refine (evaluateSelects_idrefs sels s).imp_left fun ⟨h1, h2⟩ => ⟨h1, ?_⟩
      simp [h2, hrule]

/-- The TestResult holds one RuleResult per select of a Rule, in the order of the selects; it
is returned unless a Rule reports an uninitialised `-1`. -/
theorem evaluate_idrefs (s : XccdfRun σ) :
    let r := xccdfPolicyEvaluate model policy env s
    (∀ result ∈ r.1, result.ruleResults.map (·.idref) =
        (policy.selects.map (·.item)).filter model.benchmark.isRule) ∧
      (env.uninitialisedRet ≠ -1 → r.1.isSome) := by
  unfold xccdfPolicyEvaluate
  rcases evaluateSelects_idrefs model policy env hhooks hengines hcodes hnames policy.selects
    { s with ruleResults := [] } with ⟨h0, hidrefs⟩ | ⟨habort, huninit⟩
  · simp only [h0]
    refine ⟨fun result hresult => ?_, fun _ => rfl⟩
    obtain rfl := Option.mem_some_iff.mp hresult
    simpa using hidrefs
  · simp [habort, huninit]

end OneRuleResult

/-- Under passing hooks, engines that never answer `-1` and answer non-negative codes, so that
`_resolve_operation` reads inside its tables, and no multi-check expansion, the TestResult of a
new policy holds one RuleResult for each of the profile's selects that names a Rule, in the
profile's order, then one for each Rule no select names, in document pre-order. -/
theorem evaluate_policyNew_idrefs (model : XccdfPolicyModel σ) (profile : XccdfProfile)
    (hhooks : HooksPass model.callbacks) (hengines : NoEngineAbort model.callbacks)
    (hcodes : EngineCodes model.callbacks) (hnames : NamesAtMostOne model.callbacks)
    (s : XccdfRun σ) :
    let r := xccdfPolicyEvaluate model (xccdfPolicyNew model.benchmark profile) env s
    (∀ result ∈ r.1, result.ruleResults.map (·.idref) =
        (profile.selects.map (·.item)).filter model.benchmark.isRule ++
          (model.benchmark.rulePaths.map (·.1.id)).filter (· ∉ profile.selects.map (·.item))) ∧
      (env.uninitialisedRet ≠ -1 → r.1.isSome) := by
  obtain ⟨hidrefs, hsome⟩ := evaluate_idrefs model _ env hhooks hengines hcodes hnames s
  refine ⟨fun result hresult => ?_, hsome⟩
  rw [hidrefs result hresult, policyNew_map_item, List.filter_append]
  congr 1
  refine List.filter_eq_self.mpr fun x hx => ?_
  obtain ⟨p, hp, rfl⟩ := List.mem_map.mp (List.mem_of_mem_filter hx)
  exact model.benchmark.isRule_of_mem_rulePaths hp

/-- A Benchmark holding the Rules `r1` then `r2`. -/
def twoRuleBenchmark : XccdfBenchmark :=
  { id := "benchmark", platforms := [], content := [.rule (plainRule "r1"), .rule (plainRule "r2")],
    plainTexts := [], schemaVersion := "1.2", cpeList := none, cpeLangModel := none,
    profiles := [], ids_nodup := by decide }

/-- The model of `twoRuleBenchmark` without callbacks. -/
def twoRuleModel : XccdfPolicyModel Unit :=
  { benchmark := twoRuleBenchmark, policies := [], callbacks := [], cpeDicts := [],
    cpeLangModels := [] }

/-- A profile that selects `r2` only. -/
def secondRuleProfile : XccdfProfile :=
  { emptyProfile with selects := [{ item := "r2", selected := true }] }

theorem evaluate_policyNew_idrefs_twoRules :
    let r := xccdfPolicyEvaluate twoRuleModel (xccdfPolicyNew twoRuleModel.benchmark
      secondRuleProfile) plainEnvironment ⟨(), [], []⟩
    (∀ result ∈ r.1, result.ruleResults.map (·.idref) =
        (secondRuleProfile.selects.map (·.item)).filter twoRuleModel.benchmark.isRule ++
          (twoRuleModel.benchmark.rulePaths.map (·.1.id)).filter
            (· ∉ secondRuleProfile.selects.map (·.item))) ∧
      (plainEnvironment.uninitialisedRet ≠ -1 → r.1.isSome) :=
  evaluate_policyNew_idrefs plainEnvironment twoRuleModel secondRuleProfile
    (by simp [HooksPass, twoRuleModel, callbacksBySysname])
    (by simp [NoEngineAbort, EngineAnswers, twoRuleModel])
    (by simp [EngineCodes, EngineAnswers, twoRuleModel]) (by simp [NamesAtMostOne, twoRuleModel]) _

/-- With no callback at all, a profile that selects the second of two Rules puts its
RuleResult first: the TestResult does not follow document order. -/
theorem evaluate_secondRuleProfile_idrefs :
    twoRuleBenchmark.rulePaths.map (·.1.id) = ["r1", "r2"] ∧
      (xccdfPolicyEvaluate twoRuleModel (xccdfPolicyNew twoRuleBenchmark secondRuleProfile)
        plainEnvironment ⟨(), [], []⟩).1.map (·.ruleResults.map (·.idref)) =
        some ["r2", "r1"] := by
  decide

/-- When the uninitialised `ret` of `_xccdf_policy_rule_evaluate` holds `-1`, evaluating
`benchmarkWithoutContentRef` discards the TestResult although no hook answered and no engine
was called: the Rule's applicability is the only event of the run. -/
theorem evaluate_without_contentRef_discards (env : XccdfEnvironment) (s : XccdfRun Unit) :
    let r := xccdfPolicyEvaluate modelWithoutContentRef
      (xccdfPolicyNew benchmarkWithoutContentRef emptyProfile)
      { env with uninitialisedRet := -1 } s
    r.1 = none ∧ r.2.2.trace = s.trace ++ [.applicability ruleWithoutContentRef.id] := by
  simp [xccdfPolicyEvaluate, xccdfPolicyEvaluateSelects, XccdfBenchmark.getItem,
    XccdfItem.listFind, XccdfItem.find, xccdfPolicyRuleEvaluate, xccdfPolicyIsRuleSelected,
    xccdfPolicyGetSelectById, xccdfPolicyNew, XccdfItem.xccdfPolicyResolveContent,
    xccdfPolicyResolveItem, findSelect, oscapHtableAdd, oscapHtableGet,
    XccdfTestResultType.toInt, XccdfCheck.isComplex, XccdfCheck.negate,
    benchmarkWithoutContentRef, ruleWithoutContentRef, emptyProfile, modelWithoutContentRef,
    xccdfPolicyReportCb, callbacksBySysname, errorPassEngine, callUntil,
    xccdfPolicyModelItemIsApplicable, platformChain, platformsApplicable,
    xccdfPolicyRuleGetApplicableCheck, XccdfRule.checksFiltered, xccdfPolicyGetRefineRulesByRule,
    firstMatch, xccdfPolicyIsEngineRegistered, xccdfPolicyCheckGetValueBindings,
    xccdfPolicyRuleEvaluateCheck, ruleContentRefsLoop, xccdfPolicyRuleFinish,
    xccdfPolicyReportRuleResult, startSystem]

end Xccdf
